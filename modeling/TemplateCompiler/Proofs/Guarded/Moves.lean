import TemplateCompiler.Proofs.CursorPositions
import TemplateCompiler.Token.Basic

namespace TemplateCompiler
open Text

-- Guarded operations go by byte offsets, as a cursor over bytes has to. They halt with an error of
-- the template or a misuse, with a line or column that 32 bits do not hold, at a body that no brace
-- closes, or in a loop that takes no text.
inductive Halt where
  | fault (fault : Fault)
  | uncounted
  | unbraced
  | unending
deriving DecidableEq

abbrev Guarded (α : Type) := StateT Cursor (Except Halt) α

namespace Guarded
variable {α β : Type}

def allowed : Except Misuse α → Guarded α
  | .ok value => pure value
  | .error misuse => throw (.fault (.misuse misuse))

def within (start stop : Nat) (text : List Char) : Guarded (List Char) :=
  match between? start stop text with
  | some run => pure run
  | none => throw (.fault (.misuse .noSuchRange))

def maxCount : Nat := 0xFFFFFFFF

def counted (position : Position) : Guarded Position :=
  if position.line ≤ maxCount ∧ position.column ≤ maxCount then pure position
  else throw .uncounted

def moveTo (moved : Except Misuse Cursor) : Guarded Unit := do
  let later ← allowed moved
  let _ ← counted later.position
  set later

def seek (target : Nat) : Guarded Unit := do
  let cursor ← get
  moveTo (cursor.seek target)

def unshift (expected : String) : Guarded Unit := do
  let cursor ← get
  moveTo (cursor.unshift expected)

def advance : Guarded (Option Char) := do
  let cursor ← get
  match cursor.peek with
  | none => return none
  | some c =>
    seek (cursor.offset + c.utf8Size)
    return some c

def consume (expected : Char) : Guarded Bool := do
  let cursor ← get
  if cursor.peek = some expected then
    seek (cursor.offset + expected.utf8Size)
    return true
  else return false

-- An offset behind the cursor on its line: the runes up to the cursor are taken off its column.
def lookBack (target : Nat) : Guarded Unit := do
  let cursor ← get
  if cursor.offset ≤ target then return ()
  else
    let run ← within target cursor.offset cursor.source.text
    if '\n' ∈ run ∨ run.length ≤ cursor.position.column then return ()
    else throw .uncounted

def positionAt (target : Nat) : Guarded Position := do
  lookBack target
  let cursor ← get
  let position ← allowed (cursor.positionAt target)
  counted position

def sliceWithText (start stop : Nat) (text : String) : Guarded Slice := do
  let first ← positionAt start
  let last ← positionAt stop
  let cursor ← get
  allowed (Slice.make cursor.name text first last)

def slice (start stop : Nat) : Guarded Slice := do
  let cursor ← get
  let run ← within start stop cursor.source.text
  sliceWithText start stop (String.ofList run)

def fail (target : Nat) (code : ErrorCode) (message : String) : Guarded α := do
  let position ← positionAt target
  let _ ← counted { position with line := position.line + 1 }
  let cursor ← get
  throw (.fault (.error (cursor.source.error .tokenizer code position message)))

def readBytes (count : Nat) : Guarded Slice := do
  let start ← get
  seek (start.offset + count)
  let later ← get
  slice start.offset later.offset

def tokenFrom (start : Nat) (kind : TokenKind) (text : String) : Guarded Token := do
  let cursor ← get
  let slice ← sliceWithText start cursor.offset text
  return .plain kind slice

def loop (round : α → Guarded (Option α)) (state : α) (cursor : Cursor) :
    Except Halt (α × Cursor) :=
  match round state cursor with
  | .error halt => .error halt
  | .ok (none, later) => .ok (state, later)
  | .ok (some next, later) =>
    if _further : later.rest.length < cursor.rest.length then loop round next later
    else .error .unending
termination_by cursor.rest.length

theorem bind_ok {first : Guarded α} {next : α → Guarded β} {cursor middle : Cursor} {value : α}
    (given : first cursor = .ok (value, middle)) : (first >>= next) cursor = next value middle := by
  simp only [bind, StateT.bind, Except.bind, given]

theorem bind_error {first : Guarded α} {next : α → Guarded β} {cursor : Cursor} {halt : Halt}
    (halts : first cursor = .error halt) : (first >>= next) cursor = .error halt := by
  simp only [bind, StateT.bind, Except.bind, halts]

@[simp] theorem bind_get {next : Cursor → Guarded β} {cursor : Cursor} :
    (get >>= next) cursor = next cursor cursor := rfl

@[simp] theorem pure_apply (value : α) (cursor : Cursor) :
    (pure value : Guarded α) cursor = .ok (value, cursor) := rfl

@[simp] theorem allowed_ok (value : α) (cursor : Cursor) :
    allowed (.ok value) cursor = .ok (value, cursor) := rfl

theorem within_ok {start stop : Nat} {text run : List Char} {cursor : Cursor}
    (covered : between? start stop text = some run) :
    within start stop text cursor = .ok (run, cursor) := by
  rw [within, covered]
  rfl

-- Where guarded operations are safe: on a cursor of a source whose lines and columns fit.
structure Ready (source : Source) (cursor : Cursor) : Prop where
  canonical : Cursor.Canonical source cursor
  short : source.bytes < maxCount

section Ready
variable {source : Source} {cursor first last : Cursor}

theorem Ready.skip (ready : Ready source cursor) (count : Nat) : Ready source (cursor.skip count) :=
  ⟨ready.canonical.skip count, ready.short⟩

theorem counted_position (ready : Ready source cursor)
    (other : Cursor.Canonical source last) :
    counted last.position cursor = .ok (last.position, cursor) := by
  have narrow : last.position.line ≤ maxCount ∧ last.position.column ≤ maxCount := by
    rw [other.position_eq]
    exact (Cursor.narrow_position other.isBoundary).2 ready.short
  rw [counted, if_pos narrow]
  rfl

theorem seek_offset (ready : Ready source cursor) (other : Cursor.Canonical source last) :
    seek last.offset cursor = .ok ((), last) := by
  unfold seek moveTo
  rw [bind_get, ready.canonical.seek_offset other, bind_ok (allowed_ok _ _),
    bind_ok (counted_position ready other)]
  rfl

theorem unshift_ahead (ready : Ready source cursor) (count : Nat) :
    unshift (cursor.ahead count).text (cursor.skip count) = .ok ((), cursor) := by
  unfold unshift moveTo
  rw [bind_get, ready.canonical.unshift_skip count, bind_ok (allowed_ok _ _),
    bind_ok (counted_position (ready.skip count) ready.canonical)]
  rfl

-- A guarded run that finds and passes what a reading does.
def Does (run : Guarded α) (cursor : Cursor) (read : Read α) : Prop :=
  run cursor = .ok (read.value, cursor.after read)

theorem seek_ahead (ready : Ready source cursor) (count : Nat) :
    seek (cursor.offset + byteLength (cursor.rest.take count)) cursor =
      .ok ((), cursor.skip count) := by
  rw [← Cursor.offset_skip]
  exact seek_offset ready (ready.canonical.skip count)

theorem does_advance (ready : Ready source cursor) : Does advance cursor cursor.advance := by
  unfold Does advance Cursor.advance Cursor.after
  rw [bind_get]
  cases ahead : cursor.peek with
  | none => simp
  | some c =>
    obtain ⟨rest, splits⟩ := List.head?_eq_some_iff.mp ahead
    have moved := seek_ahead ready 1
    rw [splits] at moved
    exact bind_ok moved

theorem does_consume (ready : Ready source cursor) (expected : Char) :
    Does (consume expected) cursor (cursor.consume expected) := by
  unfold Does consume Cursor.consume Cursor.after
  rw [bind_get]
  by_cases ahead : cursor.peek = some expected
  · obtain ⟨rest, splits⟩ := List.head?_eq_some_iff.mp ahead
    have moved := seek_ahead ready 1
    rw [splits] at moved
    rw [if_pos ahead, if_pos ahead]
    exact bind_ok moved
  · rw [if_neg ahead, if_neg ahead]
    simp

theorem lookBack_boundary (ready : Ready source cursor) (other : Cursor.Canonical source first) :
    lookBack first.offset cursor = .ok ((), cursor) := by
  unfold lookBack
  rw [bind_get]
  split
  · rfl
  · rename_i behind
    have before := ready.canonical.offset_eq
    rw [Nat.not_le, before, other.offset_eq] at behind
    obtain ⟨run, grown, ahead⟩ := split_of_le (other.text.trans ready.canonical.text.symm)
      (Nat.le_of_lt behind)
    have covered : between? first.offset cursor.offset cursor.source.text = some run := by
      rw [before, grown, other.offset_eq, byteLength_append, Cursor.source, grown]
      exact between?_append _ _ _
    rw [bind_ok (within_ok covered)]
    split
    · rfl
    · rename_i deep
      rw [not_or] at deep
      have counted := ready.canonical.counted
      rw [grown, Position.afterRun_append, Position.afterRun_inline _ deep.1] at counted
      rw [counted] at deep
      simp only at deep
      omega

theorem positionAt_offset (ready : Ready source cursor) (other : Cursor.Canonical source first) :
    positionAt first.offset cursor = .ok (first.position, cursor) := by
  unfold positionAt
  rw [bind_ok (lookBack_boundary ready other), bind_get,
    ready.canonical.positionAt_boundary other.isBoundary, ← other.position_eq,
    bind_ok (allowed_ok _ _)]
  exact counted_position ready other

theorem sliceWithText_offsets (ready : Ready source cursor) (start : Cursor.Canonical source first)
    (stop : Cursor.Canonical source last) (ordered : first.offset ≤ last.offset) (text : String) :
    sliceWithText first.offset last.offset text cursor =
      .ok (⟨source.name, text, first.position, last.position⟩, cursor) := by
  unfold sliceWithText
  rw [bind_ok (positionAt_offset ready start), bind_ok (positionAt_offset ready stop), bind_get,
    Slice.make, ready.canonical.name]
  exact congrArg (allowed · cursor) (if_pos ordered)

theorem slice_ahead (ready : Ready source cursor) (start : Cursor.Canonical source first)
    (count : Nat) :
    slice first.offset (first.skip count).offset cursor = .ok (first.ahead count, cursor) := by
  have stop := start.skip count
  have ordered : first.offset ≤ (first.skip count).offset := by
    rw [Cursor.offset_skip]
    omega
  have covered : between? first.offset (first.skip count).offset cursor.source.text =
      some (first.rest.take count) := by
    have run := between?_append first.passed.reverse (first.rest.take count)
      (first.rest.drop count)
    rw [List.append_assoc, List.take_append_drop, start.text] at run
    rwa [Cursor.offset_skip, start.offset_eq, ready.canonical.source_eq]
  unfold slice
  rw [bind_get, bind_ok (within_ok covered), sliceWithText_offsets ready start stop ordered,
    ← start.name]
  rfl

theorem does_readBytes (ready : Ready source cursor) (count : Nat) :
    Does (readBytes (byteLength (cursor.rest.take count))) cursor (cursor.take count) := by
  unfold Does readBytes
  rw [bind_get, bind_ok (seek_ahead ready count), bind_get]
  exact slice_ahead (ready.skip count) ready.canonical count

end Ready
end Guarded
end TemplateCompiler
