import TemplateCompiler.Text.WordRune

namespace TemplateCompiler.Text

inductive Piece where
  | literal (runes : List Char)
  | many (set : Char → Bool)
  | several (set : Char → Bool)
  | wordEdge

abbrev Pattern := List Piece

-- Runes that a piece takes. `before` is the rune just passed inside the pattern, if any; a word
-- edge lies where one side is a word rune and the other is not.
def Piece.length? (before : Option Char) (text : List Char) : Piece → Option Nat
  | .literal runes => if runes.isPrefixOf text then some runes.length else none
  | .many set => some (text.takeWhile set).length
  | .several set =>
    let length := (text.takeWhile set).length
    if length = 0 then none else some length
  | .wordEdge =>
    if before.any isWordRune != text.head?.any isWordRune then some 0 else none

def Pattern.lengthFrom? (before : Option Char) (text : List Char) : Pattern → Option Nat
  | [] => some 0
  | piece :: pieces =>
    match piece.length? before text with
    | none => none
    | some taken =>
      let passed := (text.take taken).getLast?.or before
      (Pattern.lengthFrom? passed (text.drop taken) pieces).map (taken + ·)

def Pattern.length? (pattern : Pattern) (text : List Char) : Option Nat :=
  pattern.lengthFrom? none text

@[simp] theorem Pattern.lengthFrom?_nil (before : Option Char) (text : List Char) :
    Pattern.lengthFrom? before text [] = some 0 := rfl

end TemplateCompiler.Text
