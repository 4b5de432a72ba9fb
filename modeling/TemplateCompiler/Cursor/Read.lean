import TemplateCompiler.Cursor.Basic
import TemplateCompiler.Text.Pattern
import TemplateCompiler.Text.Identifier
import TemplateCompiler.Code.Balanced
import TemplateCompiler.Code.Header

namespace TemplateCompiler
open Text Code

structure Read (α : Type) where
  value : α
  length : Nat
deriving DecidableEq

structure ScanFailure where
  position : Position
  message : String
deriving DecidableEq

def ScanFailure.display (failure : ScanFailure) : String :=
  failure.message ++ " at " ++ failure.position.display

namespace Code

-- How many runes a rule takes, and its message if it refuses what comes after them. A rule that
-- takes the end of the text stops there.
def obey {State : Type} (rule : State → Option Char → Verdict State) :
    State → List Char → Nat × Option String
  | state, [] =>
    match rule state none with
    | .refuse message => (0, some message)
    | _ => (0, none)
  | state, c :: rest =>
    match rule state (some c) with
    | .take next =>
      let (taken, refusal) := obey rule next rest
      (taken + 1, refusal)
    | .stop => (0, none)
    | .refuse message => (0, some message)

end Code

def isTextRune (marker c : Char) : Bool := c ≠ ' ' ∧ c ≠ '\t' ∧ c ≠ '\n' ∧ c ≠ marker

namespace Cursor

def after {α : Type} (cursor : Cursor) (read : Read α) : Cursor := cursor.skip read.length

def take (cursor : Cursor) (count : Nat) : Read Slice := ⟨cursor.ahead count, count⟩

def advance (cursor : Cursor) : Read (Option Char) :=
  match cursor.peek with
  | none => ⟨none, 0⟩
  | some c => ⟨some c, 1⟩

def consume (cursor : Cursor) (expected : Char) : Read Bool :=
  if cursor.peek = some expected then ⟨true, 1⟩ else ⟨false, 0⟩

def readText? (cursor : Cursor) (text : List Char) : Option (Read Slice) :=
  if text.isPrefixOf cursor.rest then some (cursor.take text.length) else none

def readMatch? (cursor : Cursor) (matcher : List Char → Option Nat) : Option (Read Slice) :=
  (matcher cursor.rest).map cursor.take

def readPattern? (cursor : Cursor) (pattern : Pattern) : Option (Read Slice) :=
  cursor.readMatch? pattern.length?

def readWhile (cursor : Cursor) (set : Char → Bool) : Read Slice :=
  cursor.take (cursor.rest.takeWhile set).length

def readTextRun (cursor : Cursor) (marker : Char) : Read Slice :=
  cursor.readWhile (isTextRune marker)

def tryReadWhile {State : Type} (cursor : Cursor)
    (rule : State → Option Char → Verdict State) (state : State) :
    Except ScanFailure (Read Slice) :=
  match obey rule state cursor.rest with
  | (taken, none) => .ok (cursor.take taken)
  | (taken, some message) => .error ⟨(cursor.skip taken).position, message⟩

def readIdentifier? (cursor : Cursor) : Option (Read Slice) :=
  (identifier? cursor.rest).map fun name => cursor.take name.length

-- A run from `opening` to the `closing` that matches it, with the cursor on `opening`. Unless the
-- delimiters are kept, as many bytes as they have are cut off at both ends.
def readBalanced (cursor : Cursor) (opening closing : Char) (keep : Bool) :
    Except Fault (Read (List Char)) :=
  match obey (Balance.rule opening closing) .start cursor.rest with
  | (_, some message) => .error (.error (cursor.errorHere .unbalanced message))
  | (taken, none) =>
    let run := cursor.rest.take taken
    if keep then .ok ⟨run, taken⟩
    else
      match between? opening.utf8Size (byteLength run - closing.utf8Size) run with
      | some code => .ok ⟨code, taken⟩
      | none => .error (.misuse .noSuchRange)

-- The header is read up to the opening brace; the brace and the marker after it are passed too.
def tryBlockHeader? (cursor : Cursor) (marker : Char) : Option (Read Slice) :=
  (header? marker cursor.rest).map fun code => ⟨cursor.ahead code.length, code.length + 2⟩

def readBlockHeader (cursor : Cursor) (marker : Char) : Except TemplateError (Read Slice) :=
  match cursor.tryBlockHeader? marker with
  | some read => .ok read
  | none => .error (cursor.errorHere .noBlockOpen
      s!"expected `\x7b{marker}` to open the block body")

def atBodyClose (cursor : Cursor) (marker : Char) : Bool :=
  cursor.peek = some marker ∧ cursor.peekNth 1 = some '}'

end Cursor
end TemplateCompiler
