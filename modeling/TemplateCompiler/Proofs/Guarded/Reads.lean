import TemplateCompiler.Proofs.Constructs
import TemplateCompiler.Proofs.Grammar
import TemplateCompiler.Proofs.Guarded.Moves
import TemplateCompiler.Proofs.TextRunBytes

namespace TemplateCompiler
open Text Code

def Source.Locates (source : Source) (fault : Fault) : Prop :=
  ∃ code ∈ [ErrorCode.unbalanced, .noBlockOpen, .unterminatedBody], ∃ offset message,
    source.IsBoundary offset ∧ fault = .error (source.errorAt .tokenizer code offset message)

namespace Guarded

def readWhile (set : Char → Bool) : Guarded Slice := do
  let cursor ← get
  readBytes (byteLength (cursor.rest.takeWhile set))

def readTextRun (marker : Char) : Guarded Slice := do
  let cursor ← get
  readBytes (textRunBytes marker cursor.rest)

def readPattern? (pattern : Pattern) : Guarded (Option Slice) := do
  let cursor ← get
  match pattern.length? cursor.rest with
  | none => return none
  | some length =>
    let slice ← readBytes (byteLength (cursor.rest.take length))
    return some slice

def readIdentifier? : Guarded (Option Slice) := do
  let cursor ← get
  if cursor.peek.any isIdentifierStart then
    let name ← readWhile isIdentifierPart
    return some name
  else return none

def obeyed {State : Type} (rule : State → Option Char → Verdict State) (state : State)
    (cursor : Cursor) : Except Halt (Option String × Cursor) :=
  match rule state cursor.peek with
  | .stop => .ok (none, cursor)
  | .refuse message => .ok (some message, cursor)
  | .take next =>
    match advance cursor with
    | .error halt => .error halt
    | .ok (none, later) => .ok (none, later)
    | .ok (some _, later) =>
      if _further : later.rest.length < cursor.rest.length then obeyed rule next later
      else .error .unending
termination_by cursor.rest.length

def tryReadWhile {State : Type} (rule : State → Option Char → Verdict State) (state : State) :
    Guarded (Except ScanFailure Slice) := do
  let start ← get
  let refusal ← obeyed rule state
  let later ← get
  match refusal with
  | none =>
    let slice ← slice start.offset later.offset
    return .ok slice
  | some message =>
    seek start.offset
    return .error ⟨later.position, message⟩

def readBalanced (opening closing : Char) (keep : Bool) : Guarded (List Char) := do
  let start ← get
  let found ← tryReadWhile (Balance.rule opening closing) .start
  match found with
  | .error failure => fail start.offset .unbalanced failure.message
  | .ok slice =>
    let run := slice.text.toList
    if keep then return run
    else within opening.utf8Size (byteLength run - closing.utf8Size) run

def tryBlockHeader? (marker : Char) : Guarded (Option Slice) := do
  let start ← get
  match header? marker start.rest with
  | none => return none
  | some code =>
    let stop := start.offset + byteLength code
    let header ← slice start.offset stop
    seek (stop + 1 + marker.utf8Size)
    return some header

def readBlockHeader (marker : Char) : Guarded Slice := do
  let start ← get
  let found ← tryBlockHeader? marker
  match found with
  | some header => return header
  | none => fail start.offset .noBlockOpen s!"expected `\x7b{marker}` to open the block body"

section Ready
variable {source : Source} {cursor : Cursor}

def orNone {α : Type} : Option (Read α) → Read (Option α)
  | none => ⟨none, 0⟩
  | some read => ⟨some read.value, read.length⟩

theorem does_run {run : Guarded Slice} {set : Char → Bool} (ready : Ready source cursor)
    (reads : run cursor = readBytes (byteLength (cursor.rest.takeWhile set)) cursor) :
    Does run cursor (cursor.readWhile set) := by
  have taken := does_readBytes ready (cursor.rest.takeWhile set).length
  rw [← List.prefix_iff_eq_take.mp (List.takeWhile_prefix set)] at taken
  exact reads.trans taken

theorem does_readWhile (ready : Ready source cursor) (set : Char → Bool) :
    Does (readWhile set) cursor (cursor.readWhile set) :=
  does_run ready rfl

theorem does_readPattern? (ready : Ready source cursor) (pattern : Pattern) :
    Does (readPattern? pattern) cursor (orNone (cursor.readPattern? pattern)) := by
  unfold Does readPattern? Cursor.readPattern? Cursor.readMatch?
  rw [bind_get]
  cases pattern.length? cursor.rest with
  | none => simp [orNone, Cursor.after]
  | some length => exact bind_ok (does_readBytes ready length)

theorem does_readIdentifier? (ready : Ready source cursor) :
    Does readIdentifier? cursor (orNone cursor.readIdentifier?) := by
  unfold Does readIdentifier? Cursor.readIdentifier?
  rw [bind_get]
  cases ahead : cursor.rest with
  | nil => simp [Cursor.peek, ahead, identifier?, orNone, Cursor.after]
  | cons c rest =>
    have first : cursor.peek.any isIdentifierStart = isIdentifierStart c := by
      simp [Cursor.peek, ahead]
    rw [first]
    by_cases start : isIdentifierStart c = true
    · have word : identifier? (c :: rest) = some ((c :: rest).takeWhile isIdentifierPart) :=
        if_pos start
      rw [if_pos start, bind_ok (does_readWhile ready isIdentifierPart), Cursor.readWhile, ahead,
        word]
      rfl
    · have word : identifier? (c :: rest) = none := if_neg start
      rw [if_neg start, word]
      simp [orNone, Cursor.after]

theorem obeyed_eq (ready : Ready source cursor) {State : Type}
    (rule : State → Option Char → Verdict State) (state : State) :
    obeyed rule state cursor =
      .ok ((obey rule state cursor.rest).2, cursor.skip (obey rule state cursor.rest).1) := by
  generalize ahead : cursor.rest = text
  induction text generalizing cursor state with
  | nil =>
    have peeked : cursor.peek = none := by simp [Cursor.peek, ahead]
    have stays := does_advance ready
    simp only [Does, Cursor.advance, peeked, Cursor.after, Cursor.skip_zero] at stays
    rw [obeyed, peeked, obey, stays]
    cases rule state none <;> simp
  | cons c rest ih =>
    have peeked : cursor.peek = some c := by simp [Cursor.peek, ahead]
    have moves := does_advance ready
    simp only [Does, Cursor.advance, peeked, Cursor.after] at moves
    have later : (cursor.skip 1).rest = rest := by simp [ahead]
    rw [obeyed, peeked, obey, moves]
    cases rule state (some c) with
    | stop => simp
    | refuse message => simp
    | take next =>
      have further : (cursor.skip 1).rest.length < cursor.rest.length := by simp [ahead]
      simp only [dif_pos further, ih (ready.skip 1) next later, Cursor.skip_skip, Nat.add_comm]

def orError {α ε : Type} : Except ε (Read α) → Read (Except ε α)
  | .error failure => ⟨.error failure, 0⟩
  | .ok read => ⟨.ok read.value, read.length⟩

theorem does_tryReadWhile (ready : Ready source cursor) {State : Type}
    (rule : State → Option Char → Verdict State) (state : State) :
    Does (tryReadWhile rule state) cursor (orError (cursor.tryReadWhile rule state)) := by
  unfold Does tryReadWhile Cursor.tryReadWhile
  rw [bind_get, bind_ok (obeyed_eq ready rule state), bind_get]
  rcases obey rule state cursor.rest with ⟨taken, refusal⟩
  cases refusal with
  | none => exact bind_ok (slice_ahead (ready.skip taken) ready.canonical taken)
  | some message =>
    dsimp only
    rw [bind_ok (seek_offset (ready.skip taken) ready.canonical)]
    simp [orError, Cursor.after]

theorem does_tryBlockHeader? (ready : Ready source cursor) (marker : Char) :
    Does (tryBlockHeader? marker) cursor (orNone (cursor.tryBlockHeader? marker)) := by
  unfold Does tryBlockHeader? Cursor.tryBlockHeader?
  rw [bind_get]
  cases opens : header? marker cursor.rest with
  | none => simp [orNone, Cursor.after]
  | some code =>
    obtain ⟨inner, splits⟩ := header?_split opens
    have header : cursor.offset + byteLength code = (cursor.skip code.length).offset := by
      rw [Cursor.offset_skip, splits, List.take_left]
    have brace : '\x7b'.utf8Size = 1 := rfl
    have past : (cursor.skip code.length).offset + 1 + marker.utf8Size =
        (cursor.skip (code.length + 2)).offset := by
      rw [← Cursor.skip_skip, Cursor.offset_skip (cursor.skip code.length), Cursor.rest_skip,
        splits, List.drop_left]
      simp [brace, Nat.add_assoc]
    simp only [header, past, bind_ok (slice_ahead ready ready.canonical code.length)]
    exact bind_ok (seek_offset ready (ready.canonical.skip _))

-- A guarded run finds and passes what a reading does, and `good` tells more of it, or it fails with
-- the same error, which lies at a place of the source.
def Agrees {α : Type} (source : Source) (cursor : Cursor) (good : α → Cursor → Prop)
    (run : Except Halt (α × Cursor)) : Except Fault (Read α) → Prop
  | .ok read => run = .ok (read.value, cursor.after read) ∧ good read.value (cursor.after read)
  | .error fault => run = .error (.fault fault) ∧ source.Locates fault

end Ready
end Guarded
end TemplateCompiler
