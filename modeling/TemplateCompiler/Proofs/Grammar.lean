import TemplateCompiler.Macro.Blocks
import TemplateCompiler.Proofs.Constructs

namespace TemplateCompiler
open Text Code

namespace Code

theorem header?_split {marker : Char} {text header : List Char}
    (found : header? marker text = some header) :
    ∃ inner, text = header ++ '{' :: marker :: inner := by
  unfold header? at found
  generalize Nesting.start = nesting at found
  induction text generalizing nesting header with
  | nil => cases found
  | cons c rest ih =>
    unfold headerFrom? at found
    split at found
    · cases found
    · split at found
      · rename_i opens
        obtain ⟨rfl, _, ahead⟩ := opens
        obtain ⟨inner, rfl⟩ := List.head?_eq_some_iff.mp ahead
        cases found
        exact ⟨inner, rfl⟩
      · obtain ⟨others, later, rfl⟩ := Option.map_eq_some_iff.mp found
        obtain ⟨inner, rfl⟩ := ih _ later
        exact ⟨inner, rfl⟩

end Code

namespace Text

theorem Piece.length?_le {piece : Piece} {before : Option Char} {text : List Char} {count : Nat}
    (found : piece.length? before text = some count) : count ≤ text.length := by
  cases piece with
  | literal runes =>
    simp only [Piece.length?, Option.ite_none_right_eq_some] at found
    obtain ⟨begins, same⟩ := found
    exact Option.some.inj same ▸ (List.isPrefixOf_iff_prefix.mp begins).length_le
  | many set =>
    cases found
    exact (List.takeWhile_prefix set).length_le
  | several set =>
    simp only [Piece.length?, Option.ite_none_left_eq_some] at found
    exact Option.some.inj found.2 ▸ (List.takeWhile_prefix set).length_le
  | wordEdge =>
    simp only [Piece.length?, Option.ite_none_right_eq_some] at found
    exact Option.some.inj found.2 ▸ Nat.zero_le _

theorem Pattern.length?_le {pattern : Pattern} {text : List Char} {count : Nat}
    (found : pattern.length? text = some count) : count ≤ text.length := by
  unfold Pattern.length? at found
  generalize none = before at found
  induction pattern generalizing before text count with
  | nil => cases found; exact Nat.zero_le _
  | cons piece pieces ih =>
    unfold Pattern.lengthFrom? at found
    split at found
    · cases found
    · rename_i taken first
      obtain ⟨others, later, rfl⟩ := Option.map_eq_some_iff.mp found
      have one := Piece.length?_le first
      have more := ih _ later
      rw [List.length_drop] at more
      omega

end Text

def elseIfAt? (marker : Char) (text : List Char) : Option (List Char × List Char) :=
  (elseIfPattern.length? text).bind fun length =>
    (header? marker (text.drop length)).map fun header => (text.take length, header)

def elseAt? (marker : Char) (text : List Char) : Option (List Char) :=
  (elsePattern.length? text).bind fun length =>
    if (text.drop length).head? = some marker then some (text.take length) else none

theorem elseIfAt?_split {marker : Char} {text head header : List Char}
    (found : elseIfAt? marker text = some (head, header)) :
    ∃ inner, text = head ++ header ++ '{' :: marker :: inner := by
  obtain ⟨length, _, found⟩ := Option.bind_eq_some_iff.mp found
  obtain ⟨code, found, same⟩ := Option.map_eq_some_iff.mp found
  cases same
  obtain ⟨inner, splits⟩ := header?_split found
  exact ⟨inner, by rw [List.append_assoc, ← splits, List.take_append_drop]⟩

theorem elseAt?_split {marker : Char} {text head : List Char}
    (found : elseAt? marker text = some head) : ∃ inner, text = head ++ marker :: inner := by
  obtain ⟨length, _, found⟩ := Option.bind_eq_some_iff.mp found
  simp only [Option.ite_none_right_eq_some] at found
  obtain ⟨ahead, same⟩ := found
  obtain ⟨inner, splits⟩ := List.head?_eq_some_iff.mp ahead
  exact ⟨inner, by rw [← splits, ← Option.some.inj same, List.take_append_drop]⟩

namespace Fragment

-- Fragments around the bodies of a block. The marker of a closing brace belongs to the fragment
-- after the body, be it the closing one or the opening of one more branch.
def opening (marker : Char) (name header : List Char) : Fragment :=
  ⟨.localBlock, name ++ header ++ ['{'], marker :: '.' :: name ++ header ++ ['{', marker]⟩

def elseIf (marker : Char) (head header : List Char) : Fragment :=
  ⟨.localBlock, head ++ header ++ ['{'], marker :: head ++ header ++ ['{', marker]⟩

def elseLast (marker : Char) (head : List Char) : Fragment :=
  ⟨.localBlock, ['}', ' ', 'e', 'l', 's', 'e', ' ', '{'], marker :: head ++ [marker]⟩

def closing (marker : Char) : Fragment := ⟨.localBlock, ['}'], [marker, '}']⟩

end Fragment

def forName : List Char := ['f', 'o', 'r']

def ifName : List Char := ['i', 'f']

-- What a part of a template may be: one item, items (inside a body or not) or the branches of an
-- `if` after its first body, read from behind the closing marker on.
inductive Part where
  | item
  | items (inside : Bool)
  | branches

-- The fragments of a part of a text, and the text after it. Items inside a body stop at the first
-- closing marker and brace.
inductive Lexes (marker : Char) (known : String → Bool) :
    Part → List Char → List Fragment → List Char → Prop
  | plain {fragment rest} (plain : Plain marker known fragment rest) :
      Lexes marker known .item (fragment.covered ++ rest) [fragment] rest
  | forBlock {header inner body rest}
      (called : Called marker known forName (header ++ '{' :: marker :: inner))
      (opens : header? marker (header ++ '{' :: marker :: inner) = some header)
      (lexes : Lexes marker known (.items true) inner body (marker :: '}' :: rest)) :
      Lexes marker known .item (marker :: '.' :: forName ++ (header ++ '{' :: marker :: inner))
        (.opening marker forName header :: body ++ [.closing marker]) rest
  | ifBlock {header inner body text branches rest}
      (called : Called marker known ifName (header ++ '{' :: marker :: inner))
      (opens : header? marker (header ++ '{' :: marker :: inner) = some header)
      (lexes : Lexes marker known (.items true) inner body (marker :: text))
      (further : Lexes marker known .branches text branches ('}' :: rest)) :
      Lexes marker known .item (marker :: '.' :: ifName ++ (header ++ '{' :: marker :: inner))
        (.opening marker ifName header :: body ++ branches ++ [.closing marker]) rest
  | done {inside text} : Lexes marker known (.items inside) text [] text
  | more {inside text one rest others last}
      (stays : inside = true → ¬ [marker, '}'] <+: text)
      (first : Lexes marker known .item text one rest)
      (lexes : Lexes marker known (.items inside) rest others last) :
      Lexes marker known (.items inside) text (one ++ others) last
  | noBranch {text} (noElseIf : elseIfAt? marker ('}' :: text) = none)
      (noElse : elseAt? marker ('}' :: text) = none) :
      Lexes marker known .branches ('}' :: text) [] ('}' :: text)
  | elseIf {text head header inner body rest others last}
      (found : elseIfAt? marker ('}' :: text) = some (head, header))
      (splits : '}' :: text = head ++ header ++ '{' :: marker :: inner)
      (lexes : Lexes marker known (.items true) inner body (marker :: rest))
      (further : Lexes marker known .branches rest others last) :
      Lexes marker known .branches ('}' :: text) (.elseIf marker head header :: body ++ others) last
  | elseLast {text head inner body rest} (noElseIf : elseIfAt? marker ('}' :: text) = none)
      (found : elseAt? marker ('}' :: text) = some head)
      (splits : '}' :: text = head ++ marker :: inner)
      (lexes : Lexes marker known (.items true) inner body (marker :: '}' :: rest)) :
      Lexes marker known .branches ('}' :: text) (.elseLast marker head :: body) ('}' :: rest)

-- Text before a part and after it. Branches begin at the closing marker before them and leave the
-- last one.
def Part.lead (marker : Char) : Part → List Char
  | .branches => [marker]
  | _ => []

theorem Lexes.source_eq {marker : Char} {known : String → Bool} {part : Part}
    {text rest : List Char} {fragments : List Fragment}
    (lexes : Lexes marker known part text fragments rest) :
    part.lead marker ++ text = Fragment.source fragments ++ (part.lead marker ++ rest) := by
  induction lexes with
  | plain => simp [Part.lead]
  | forBlock called opens lexes ih => simp_all [Part.lead, Fragment.opening, Fragment.closing]
  | ifBlock called opens lexes others ih branches =>
    simp_all [Part.lead, Fragment.opening, Fragment.closing]
  | done => rfl
  | more stays first lexes one ih => simp_all [Part.lead]
  | noBranch => rfl
  | elseIf found splits lexes others ih branches =>
    rw [splits]
    simp_all [Part.lead, Fragment.elseIf]
  | elseLast noElseIf found splits lexes ih =>
    rw [splits]
    simp_all [Part.lead, Fragment.elseLast]

theorem Lexes.covers {marker : Char} {known : String → Bool} {inside : Bool}
    {text rest : List Char} {fragments : List Fragment}
    (lexes : Lexes marker known (.items inside) text fragments rest) :
    text = Fragment.source fragments ++ rest := lexes.source_eq

theorem Lexes.covers_whole {marker : Char} {known : String → Bool} {inside : Bool}
    {text : List Char} {fragments : List Fragment}
    (lexes : Lexes marker known (.items inside) text fragments []) :
    text = Fragment.source fragments := by
  rw [lexes.covers, List.append_nil]

theorem Lexes.nonempty {marker : Char} {known : String → Bool} {part : Part}
    {text rest : List Char} {fragments : List Fragment}
    (lexes : Lexes marker known part text fragments rest) :
    ∀ fragment ∈ fragments, fragment.covered ≠ [] := by
  induction lexes with
  | plain plain => simpa using plain.nonempty
  | done | noBranch => simp
  | forBlock | ifBlock | more | elseIf | elseLast =>
    simp_all [or_imp, Fragment.opening, Fragment.closing, Fragment.elseIf, Fragment.elseLast]

end TemplateCompiler
