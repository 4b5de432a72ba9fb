import TemplateCompiler.Proofs.BlockMacros
import TemplateCompiler.Proofs.CursorPositions
import TemplateCompiler.Proofs.ScanAnswers

namespace TemplateCompiler
open Text Code

namespace Cursor

def left (cursor : Cursor) : Nat := byteLength cursor.rest

theorem left_skip (cursor : Cursor) (count : Nat) :
    (cursor.skip count).offset + (cursor.skip count).left = cursor.offset + cursor.left := by
  have splits := congrArg byteLength (List.take_append_drop count cursor.rest)
  rw [byteLength_append] at splits
  rw [offset_skip, left, left, rest_skip]
  omega

theorem offset_lt_skip {cursor : Cursor} {count : Nat} (ahead : cursor.rest ≠ [])
    (moves : 0 < count) : cursor.offset < (cursor.skip count).offset := by
  obtain ⟨c, rest, splits⟩ := List.exists_cons_of_ne_nil ahead
  obtain ⟨more, rfl⟩ := Nat.exists_eq_succ_of_ne_zero (Nat.ne_of_gt moves)
  have wide := c.utf8Size_pos
  rw [offset_skip, splits, List.take_succ_cons, byteLength_cons]
  omega

theorem left_skip_le (cursor : Cursor) (count : Nat) : (cursor.skip count).left ≤ cursor.left := by
  have total := cursor.left_skip count
  rw [offset_skip] at total
  omega

theorem shortens_of_offset_lt {cursor : Cursor} {count : Nat}
    (moved : cursor.offset < (cursor.skip count).offset) :
    (cursor.skip count).rest.length < cursor.rest.length := by
  cases count with
  | zero => exact absurd moved (by simp)
  | succ more =>
    apply skip_shortens
    intro ended
    simp [offset_skip, ended] at moved

end Cursor

namespace Scan
variable {σ α β : Type}

-- A reading that may step back over what it has passed; what counts is where it ends.
def moving (move : Cursor → Except Misuse (α × Cursor)) : Scan σ α := fun _ _ cursor _ memory =>
  match move cursor with
  | .ok (value, later) => ⟨.ok value, cursor.rest.length - later.rest.length, memory⟩
  | .error misuse => ⟨.error (.misuse misuse), 0, memory⟩

def roundsWithin (spent : α → Scan σ α) (round : α → Scan σ (Option α)) : Nat → α → Scan σ α
  | 0, state => spent state
  | fuel + 1, state => do
    let before ← cursor
    match ← round state with
    | none => return state
    | some next =>
      let after ← cursor
      if before.offset < after.offset then roundsWithin spent round fuel next else spent next

end Scan

namespace Blocks
variable {σ : Type}

-- The words of one more branch are passed before its header is looked for, and given back if it
-- has none.
def elseIfMoves (marker : Char) (cursor : Cursor) : Except Misuse (Option String × Cursor) :=
  match cursor.readPattern? elseIfPattern with
  | none => .ok (none, cursor)
  | some head =>
    let behind := cursor.after head
    match behind.tryBlockHeader? marker with
    | none => (behind.unshift head.value.text).map (none, ·)
    | some header =>
      .ok (some (head.value.text ++ header.value.text ++ "\x7b"), behind.after header)

def elseMoves (marker : Char) (cursor : Cursor) : Except Misuse (Bool × Cursor) :=
  match cursor.readPattern? elsePattern with
  | none => .ok (false, cursor)
  | some head =>
    let behind := cursor.after head
    let opens := behind.consume marker
    if opens.value then .ok (true, behind.after opens)
    else (behind.unshift head.value.text).map (false, ·)

def elseIfRound (openedAt : Nat) (sofar : List Token × Position) :
    Scan σ (Option (List Token × Position)) := do
  let marker ← Scan.marker
  match ← Scan.moving (elseIfMoves marker) with
  | none => return none
  | some opening =>
    let middle ← Scan.tokenFrom sofar.2 .localBlock opening
    let (body, close) ← readBranch openedAt
    return some (sofar.1 ++ middle :: body, close)

def lastBranch (openedAt : Nat) (sofar : List Token × Position) :
    Scan σ (List Token × Position) := do
  let marker ← Scan.marker
  if ← Scan.moving (elseMoves marker) then
    let middle ← Scan.tokenFrom sofar.2 .localBlock "\x7d else \x7b"
    let (body, close) ← readBranch openedAt
    return (sofar.1 ++ middle :: body, close)
  else return sofar

def expandIfWithin (spent : List Token × Position → Scan σ (List Token × Position)) (fuel : Nat)
    (call : Slice) : Scan σ (List Token) := do
  let opening ← openBlock call.start call.text
  let (body, close) ← readBranch call.start.offset
  let branches ← Scan.roundsWithin spent (elseIfRound call.start.offset) fuel
    (opening :: body, close)
  let (tokens, last) ← lastBranch call.start.offset branches
  let closing ← closeBlock last
  return tokens ++ [closing]

end Blocks

-- Surroundings that read the same bodies wherever a scan can come to from a cursor.
structure Surroundings.SameFrom {σ : Type} {bound : Nat} (cursor : Cursor)
    (around other : Surroundings σ bound) : Prop where
  marker : around.marker = other.marker
  bodies : ∀ count later, later = cursor.skip count → ∀ within memory,
    around.readBody later within memory = other.readBody later within memory

theorem Surroundings.SameFrom.skip {σ : Type} {bound : Nat} {cursor : Cursor}
    {around other : Surroundings σ bound} (same : SameFrom cursor around other) (count : Nat) :
    SameFrom (cursor.skip count) around other where
  marker := same.marker
  bodies := by
    rintro more later rfl
    exact same.bodies (count + more) _ (Cursor.skip_skip _ _ _)

namespace Scan
variable {σ α β : Type} {cursor : Cursor}

def SameAt (cursor : Cursor) (scan other : Scan σ α) : Prop :=
  ∀ (bound : Nat) (around beside : Surroundings σ bound), around.SameFrom cursor beside →
    ∀ within memory,
      scan bound around cursor within memory = other bound beside cursor within memory

theorem SameAt.bind {first second : Scan σ α} {next further : α → Scan σ β}
    (one : SameAt cursor first second)
    (two : ∀ value count, SameAt (cursor.skip count) (next value) (further value)) :
    SameAt cursor (first >>= next) (second >>= further) := by
  intro bound around beside same within memory
  rw [andThen_eq (one bound around beside same within memory), andThen_eq rfl]
  cases (second bound beside cursor within memory).value with
  | error fault => rfl
  | ok value =>
    dsimp only
    rw [two value _ bound around beside (same.skip _)]

theorem sameAt_pure (value : α) : SameAt cursor (pure value : Scan σ α) (pure value) :=
  fun _ _ _ _ _ _ => rfl

theorem sameAt_marker : SameAt cursor (marker : Scan σ Char) marker := by
  intro bound around beside same within memory
  simp only [marker, same.marker]

theorem sameAt_cursor : SameAt cursor (Scan.cursor : Scan σ Cursor) Scan.cursor :=
  fun _ _ _ _ _ _ => rfl

theorem sameAt_read (reading : Cursor → Read α) :
    SameAt cursor (read reading : Scan σ α) (read reading) :=
  fun _ _ _ _ _ _ => rfl

theorem sameAt_readOrFail (reading : Cursor → Except Fault (Read α)) :
    SameAt cursor (readOrFail reading : Scan σ α) (readOrFail reading) :=
  fun _ _ _ _ _ _ => rfl

theorem sameAt_tokenFrom (start : Position) (kind : TokenKind) (text : String) :
    SameAt cursor (tokenFrom start kind text : Scan σ Token) (tokenFrom start kind text) :=
  fun _ _ _ _ _ _ => rfl

theorem sameAt_readBody (openedAt : Nat) :
    SameAt cursor (readBody openedAt : Scan σ (List Token)) (readBody openedAt) := by
  intro bound around beside same within memory
  unfold readBody
  rw [same.bodies 0 cursor cursor.skip_zero.symm, same.marker]

theorem sameAt_skip (count : Nat) : SameAt cursor (skip count : Scan σ Unit) (skip count) :=
  sameAt_read _

theorem sameAt_moving {move : Cursor → Except Misuse (α × Cursor)} {reading : Cursor → Read α}
    (moves : move cursor = .ok ((reading cursor).value, cursor.after (reading cursor)))
    (fits : (reading cursor).length ≤ cursor.rest.length) :
    SameAt cursor (moving move : Scan σ α) (read reading) := by
  intro bound around beside same within memory
  have length : cursor.rest.length - (cursor.after (reading cursor)).rest.length =
      (reading cursor).length := by
    rw [Cursor.after, Cursor.rest_skip, List.length_drop]
    omega
  unfold moving read
  rw [moves]
  simp only [length]

theorem after_still {bound : Nat} {around : Surroundings σ bound}
    {within : cursor.rest.length ≤ bound} {memory : σ} {first : Scan σ α} {next : α → Scan σ β} {value : α}
    (still : first bound around cursor within memory = ⟨.ok value, 0, memory⟩) :
    (first >>= next) bound around cursor within memory =
      next value bound around cursor within memory := by
  have here : ∀ later (_ : later = cursor) inside, next value bound around later inside memory =
      next value bound around cursor within memory := by
    rintro _ rfl _
    rfl
  rw [andThen_eq still]
  simp only [here _ cursor.skip_zero, Nat.zero_add]

def Advances (scan : Scan σ (Option α)) : Prop :=
  ∀ (bound : Nat) (around : Surroundings σ bound) cursor within memory next,
    (scan bound around cursor within memory).value = .ok (some next) →
      cursor.offset < (cursor.skip (scan bound around cursor within memory).length).offset

-- With more fuel than bytes left, rounds end before the fuel does.
theorem sameAt_rounds {spent : α → Scan σ α} {round step : α → Scan σ (Option α)}
    (each : ∀ state count, SameAt (cursor.skip count) (round state) (step state))
    (advances : ∀ state, (step state).Advances) {fuel : Nat} (short : cursor.left < fuel)
    (state : α) : SameAt cursor (roundsWithin spent round fuel state) (rounds step state) := by
  induction fuel generalizing cursor state with
  | zero => omega
  | succ fuel ih =>
    intro bound around beside same within memory
    have here := each state 0
    rw [Cursor.skip_zero] at here
    rw [roundsWithin, after_still rfl, andThen_eq (here bound around beside same within memory),
      rounds, roundsFrom]
    cases answer : (step state bound beside cursor within memory).value with
    | error fault => rfl
    | ok found =>
      cases found with
      | none => rfl
      | some next =>
        have moved := advances state bound beside cursor within memory next answer
        have total := cursor.left_skip (step state bound beside cursor within memory).length
        have others := @ih (cursor.skip (step state bound beside cursor within memory).length)
          (fun state count => by rw [Cursor.skip_skip]; exact each state _) (by omega) next
          bound around beside (same.skip _)
        dsimp only
        rw [after_still rfl, if_pos moved]
        simp only [dif_pos (Cursor.shortens_of_offset_lt moved), others]
        rfl

end Scan

namespace Blocks
variable {σ : Type} {source : Source} {cursor : Cursor}

theorem elseIfMoves_eq (canonical : Cursor.Canonical source cursor) (marker : Char) :
    elseIfMoves marker cursor =
      .ok ((elseIfHead? marker cursor).value, cursor.after (elseIfHead? marker cursor)) := by
  unfold elseIfMoves elseIfHead? Cursor.readPattern? Cursor.readMatch?
  cases elseIfPattern.length? cursor.rest with
  | none => simp [Cursor.after]
  | some length =>
    have back := canonical.unshift_skip length
    simp only [Option.map_some, Cursor.after, Cursor.take]
    cases (cursor.skip length).tryBlockHeader? marker with
    | none => simp [back, Except.map]
    | some header => simp [Cursor.skip_skip]

theorem elseMoves_eq (canonical : Cursor.Canonical source cursor) (marker : Char) :
    elseMoves marker cursor =
      .ok ((elseHead? marker cursor).value, cursor.after (elseHead? marker cursor)) := by
  unfold elseMoves elseHead? Cursor.readPattern? Cursor.readMatch?
  cases elsePattern.length? cursor.rest with
  | none => simp [Cursor.after]
  | some length =>
    have back := canonical.unshift_skip length
    simp only [Option.map_some, Cursor.after, Cursor.take, Cursor.consume]
    by_cases ahead : (cursor.skip length).peek = some marker
    · simp [ahead, Cursor.skip_skip]
    · simp [ahead, back, Except.map]

theorem elseIfHead?_fits (marker : Char) (cursor : Cursor) :
    (elseIfHead? marker cursor).length ≤ cursor.rest.length := by
  rw [elseIfHead?_eq]
  cases found : elseIfAt? marker cursor.rest with
  | none => exact Nat.zero_le _
  | some words =>
    obtain ⟨head, header⟩ := words
    obtain ⟨inner, splits⟩ := elseIfAt?_split found
    rw [splits]
    simp only [List.length_append, List.length_cons]
    omega

theorem elseHead?_fits (marker : Char) (cursor : Cursor) :
    (elseHead? marker cursor).length ≤ cursor.rest.length := by
  rw [elseHead?_eq]
  cases found : elseAt? marker cursor.rest with
  | none => exact Nat.zero_le _
  | some head =>
    obtain ⟨inner, splits⟩ := elseAt?_split found
    rw [splits]
    simp only [List.length_append, List.length_cons]
    omega

theorem sameAt_openBlock (start : Position) (lead : String) :
    Scan.SameAt cursor (openBlock start lead : Scan σ Token) (openBlock start lead) :=
  Scan.sameAt_marker.bind fun _ _ => (Scan.sameAt_readOrFail _).bind fun _ _ =>
    Scan.sameAt_tokenFrom _ _ _

theorem sameAt_readBranch (openedAt : Nat) :
    Scan.SameAt cursor (readBranch openedAt : Scan σ (List Token × Position))
      (readBranch openedAt) :=
  (Scan.sameAt_readBody _).bind fun _ _ => Scan.sameAt_cursor.bind fun _ _ =>
    (Scan.sameAt_skip _).bind fun _ _ => Scan.sameAt_pure _

theorem sameAt_closeBlock (start : Position) :
    Scan.SameAt cursor (closeBlock start : Scan σ Token) (closeBlock start) :=
  (Scan.sameAt_read _).bind fun _ _ => Scan.sameAt_tokenFrom _ _ _

theorem sameAt_elseIf (canonical : Cursor.Canonical source cursor) (openedAt : Nat)
    (sofar : List Token × Position) :
    Scan.SameAt cursor (elseIfRound openedAt sofar : Scan σ _) (elseIfBranch openedAt sofar) := by
  apply Scan.sameAt_marker.bind
  intro marker count
  apply (Scan.sameAt_moving (elseIfMoves_eq (canonical.skip count) marker)
    (elseIfHead?_fits marker _)).bind
  intro words taken
  cases words with
  | none => exact Scan.sameAt_pure none
  | some opening =>
    exact (Scan.sameAt_tokenFrom _ _ _).bind fun middle _ =>
      (sameAt_readBranch openedAt).bind fun found _ => Scan.sameAt_pure _

theorem sameAt_elseLast (canonical : Cursor.Canonical source cursor) (openedAt : Nat)
    (sofar : List Token × Position) :
    Scan.SameAt cursor (lastBranch openedAt sofar : Scan σ _) (elseBranch openedAt sofar) := by
  apply Scan.sameAt_marker.bind
  intro marker count
  apply (Scan.sameAt_moving (elseMoves_eq (canonical.skip count) marker)
    (elseHead?_fits marker _)).bind
  intro opens taken
  cases opens with
  | false => exact Scan.sameAt_pure sofar
  | true =>
    exact (Scan.sameAt_tokenFrom _ _ _).bind fun middle _ =>
      (sameAt_readBranch openedAt).bind fun found _ => Scan.sameAt_pure _

theorem elseIfBranch_advances (openedAt : Nat) (sofar : List Token × Position) :
    (elseIfBranch openedAt sofar : Scan σ _).Advances := by
  intro bound around cursor within memory next goes
  have runs : Scan.Runs around (elseIfBranch openedAt sofar) cursor (some next)
      (cursor.skip (elseIfBranch openedAt sofar bound around cursor within memory).length) :=
    ⟨within, memory, goes, rfl⟩
  obtain ⟨marker, start, here, others⟩ := Scan.runs_bind runs
  obtain ⟨rfl, rfl⟩ := Scan.runs_marker here
  obtain ⟨words, behind, read, others⟩ := Scan.runs_bind others
  obtain ⟨same, passed⟩ := Scan.runs_read read
  rw [elseIfHead?_eq] at same passed
  cases found : elseIfAt? around.marker start.rest with
  | none =>
    rw [found] at same
    subst same
    cases (Scan.runs_pure others).1
  | some branch =>
    obtain ⟨head, header⟩ := branch
    obtain ⟨inner, splits⟩ := elseIfAt?_split found
    obtain ⟨_, _, _, moved⟩ := others
    rw [found] at passed
    have further : start.offset < behind.offset := by
      rw [passed]
      exact Cursor.offset_lt_skip (by simp [splits]) (Nat.succ_pos _)
    rw [moved, Cursor.offset_skip behind]
    omega

theorem elseIfRound_advances (canonical : Cursor.Canonical source cursor) {openedAt : Nat}
    {sofar next : List Token × Position} {bound : Nat} {around : Surroundings σ bound}
    {within : cursor.rest.length ≤ bound} {memory : σ}
    (goes : (elseIfRound openedAt sofar bound around cursor within memory).value =
      .ok (some next)) :
    cursor.offset < (cursor.skip
      (elseIfRound openedAt sofar bound around cursor within memory).length).offset := by
  have same := sameAt_elseIf canonical openedAt sofar bound around around
    ⟨rfl, fun _ _ _ _ _ => rfl⟩ within memory
  rw [same] at goes ⊢
  exact elseIfBranch_advances _ _ _ _ _ _ _ _ goes

theorem sameAt_expandFor (call : Slice) :
    Scan.SameAt cursor (expandFor call : Scan σ (List Token)) (expandFor call) :=
  (sameAt_openBlock _ _).bind fun _ _ => (sameAt_readBranch _).bind fun _ _ =>
    (sameAt_closeBlock _).bind fun _ _ => Scan.sameAt_pure _

theorem sameAt_expandIf (canonical : Cursor.Canonical source cursor)
    (spent : List Token × Position → Scan σ (List Token × Position)) {fuel : Nat}
    (short : cursor.left < fuel) (call : Slice) :
    Scan.SameAt cursor (expandIfWithin spent fuel call) (expandIf call) := by
  apply (sameAt_openBlock _ _).bind
  intro opening opened
  apply (sameAt_readBranch _).bind
  intro found passed
  have inner := (canonical.skip opened).skip passed
  have further : ((cursor.skip opened).skip passed).left < fuel :=
    Nat.lt_of_le_of_lt (Nat.le_trans (Cursor.left_skip_le _ _) (Cursor.left_skip_le _ _)) short
  apply (Scan.sameAt_rounds (fun sofar count => sameAt_elseIf (inner.skip count) _ sofar)
    (elseIfBranch_advances _) further _).bind
  intro branches more
  apply (sameAt_elseLast (inner.skip more) _ _).bind
  intro all last
  exact (sameAt_closeBlock _).bind fun _ _ => Scan.sameAt_pure _

end Blocks
end TemplateCompiler
