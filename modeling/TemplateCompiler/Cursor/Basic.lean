import TemplateCompiler.Diagnostic
import TemplateCompiler.Source.Slice

namespace TemplateCompiler
open Text

-- The runes behind the cursor are kept nearest first.
structure Cursor where
  name : String
  passed : List Char
  rest : List Char
  position : Position
deriving DecidableEq

namespace Cursor

def ofSource (source : Source) : Cursor := ⟨source.name, [], source.text, .start⟩

def source (cursor : Cursor) : Source := ⟨cursor.name, cursor.passed.reverse ++ cursor.rest⟩

def offset (cursor : Cursor) : Nat := cursor.position.offset

def skip (cursor : Cursor) (count : Nat) : Cursor where
  name := cursor.name
  passed := (cursor.rest.take count).reverse ++ cursor.passed
  rest := cursor.rest.drop count
  position := cursor.position.afterRun (cursor.rest.take count)

@[simp] theorem skip_zero (cursor : Cursor) : cursor.skip 0 = cursor := by
  simp [skip]

theorem skip_skip (cursor : Cursor) (first second : Nat) :
    (cursor.skip first).skip second = cursor.skip (first + second) := by
  simp [skip, List.take_add, Position.afterRun_append]

@[simp] theorem rest_skip (cursor : Cursor) (count : Nat) :
    (cursor.skip count).rest = cursor.rest.drop count := rfl

@[simp] theorem name_skip (cursor : Cursor) (count : Nat) : (cursor.skip count).name = cursor.name :=
  rfl

@[simp] theorem source_skip (cursor : Cursor) (count : Nat) :
    (cursor.skip count).source = cursor.source := by
  simp [source, skip]

theorem skip_shortens (cursor : Cursor) (count : Nat) (ahead : cursor.rest ≠ []) :
    (cursor.skip (count + 1)).rest.length < cursor.rest.length := by
  have pos := List.length_pos_iff.mpr ahead
  simp only [rest_skip, List.length_drop]
  omega

def peek (cursor : Cursor) : Option Char := cursor.rest.head?

def peekNth (cursor : Cursor) (ahead : Nat) : Option Char := cursor.rest[ahead]?

def atEnd (cursor : Cursor) : Bool := cursor.rest.isEmpty

def spanTo (cursor later : Cursor) (text : List Char) : Slice :=
  ⟨cursor.name, String.ofList text, cursor.position, later.position⟩

def ahead (cursor : Cursor) (count : Nat) : Slice :=
  cursor.spanTo (cursor.skip count) (cursor.rest.take count)

def seek (cursor : Cursor) (target : Nat) : Except Misuse Cursor :=
  if cursor.offset ≤ target then
    match cut (target - cursor.offset) cursor.rest with
    | .between run _ => .ok (cursor.skip run.length)
    | .inside => .error (.seekSplitsRune target cursor.name)
    | .beyond => .error (.seekPastEnd target cursor.name cursor.source.bytes)
  else
    match cut target cursor.source.text with
    | .between before after =>
      .ok ⟨cursor.name, before.reverse, after, cursor.source.positionAt target⟩
    | .inside => .error (.seekSplitsRune target cursor.name)
    | .beyond => .error (.seekPastEnd target cursor.name cursor.source.bytes)

def unshift (cursor : Cursor) (expected : String) : Except Misuse Cursor :=
  if expected.toList.reverse.isPrefixOf cursor.passed then
    cursor.seek (cursor.offset - byteLength expected.toList)
  else .error (.unshiftMismatch expected cursor.offset)

-- An offset ahead is counted from the cursor, one behind on the same line is counted back to, and
-- one on an earlier line goes through the line table.
def positionAt (cursor : Cursor) (target : Nat) : Except Misuse Position :=
  if cursor.offset ≤ target then
    match cut (target - cursor.offset) cursor.rest with
    | .between run _ => .ok (cursor.position.afterRun run)
    | _ => .error .noSuchRange
  else
    match cut target cursor.passed.reverse with
    | .between _ run =>
      if '\n' ∈ run then .ok (cursor.source.positionAt target)
      else .ok ⟨target, cursor.position.line, cursor.position.column - run.length⟩
    | _ => .error .noSuchRange

def sliceWithText (cursor : Cursor) (start stop : Nat) (text : String) : Except Misuse Slice := do
  let first ← cursor.positionAt start
  let last ← cursor.positionAt stop
  Slice.make cursor.name text first last

def slice (cursor : Cursor) (start stop : Nat) : Except Misuse Slice :=
  match between? start stop cursor.source.text with
  | none => .error .noSuchRange
  | some run => cursor.sliceWithText start stop (String.ofList run)

def errorAt (cursor : Cursor) (target : Nat) (code : ErrorCode) (message : String) :
    Except Misuse TemplateError := do
  let position ← cursor.positionAt target
  return cursor.source.error .tokenizer code position message

def errorHere (cursor : Cursor) (code : ErrorCode) (message : String) : TemplateError :=
  cursor.source.error .tokenizer code cursor.position message

end Cursor
end TemplateCompiler
