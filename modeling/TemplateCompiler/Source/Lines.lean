import TemplateCompiler.Source.Position
import TemplateCompiler.Text.Utf8

namespace TemplateCompiler
open Text

structure Source where
  name : String
  text : List Char
deriving DecidableEq

def startsAfter (offset : Nat) : List Char → List Nat
  | [] => []
  | c :: rest =>
    if c = '\n' then (offset + c.utf8Size) :: startsAfter (offset + c.utf8Size) rest
    else startsAfter (offset + c.utf8Size) rest

def lineStarts (text : List Char) : List Nat := 0 :: startsAfter 0 text

-- An offset past the end counts as the end. The count has no bound here: 32 bits hold it, and that
-- of a line, in every source of fewer than 0xFFFFFFFF bytes.
def columnBetween (text : List Char) (lineStart offset : Nat) : Nat :=
  ((between? lineStart (min offset (byteLength text)) text).getD []).length + 1

namespace Source

def bytes (source : Source) : Nat := byteLength source.text

def lineOf (source : Source) (offset : Nat) : Nat :=
  ((lineStarts source.text).takeWhile (· ≤ offset)).length

def lineStart? (source : Source) (line : Nat) : Option Nat :=
  if line = 0 then none else (lineStarts source.text)[line - 1]?

def lineText? (source : Source) (line : Nat) : Option (List Char) :=
  match source.lineStart? line with
  | none => none
  | some start =>
    let stop := match source.lineStart? (line + 1) with
      | some next => next - 1
      | none => source.bytes
    between? start stop source.text

def positionAt (source : Source) (offset : Nat) : Position :=
  let line := source.lineOf offset
  ⟨offset, line, columnBetween source.text ((source.lineStart? line).getD 0) offset⟩

-- The line of a position and, below it, a caret under its column. Tabs before the column stay
-- tabs, so that the caret lines up however wide a tab is shown.
def caret (source : Source) (position : Position) : String :=
  let line := (source.lineText? position.line).getD []
  let padding := (line.take (position.column - 1)).map fun c => if c = '\t' then '\t' else ' '
  String.ofList (line ++ '\n' :: padding ++ ['^'])

end Source
end TemplateCompiler
