import TemplateCompiler.Proofs.Guarded.Reads

namespace TemplateCompiler
open Text Code

namespace Code

inductive Takes {State : Type} (rule : State → Option Char → Verdict State) :
    State → List Char → State → Prop
  | nil {state} : Takes rule state [] state
  | cons {state next last c run} (takes : rule state (some c) = .take next)
      (further : Takes rule next run last) : Takes rule state (c :: run) last

theorem obey_within_ends {opening closing : Char} {depth : Nat} {quoting : Quoting}
    {text : List Char} {taken : Nat}
    (ends : obey (Balance.rule opening closing) (.within depth quoting) text = (taken, none)) :
    ∃ code, text.take taken = code ++ [closing] := by
  induction text generalizing depth quoting taken with
  | nil => cases ends
  | cons c rest ih =>
    rw [obey] at ends
    simp only [Balance.rule] at ends
    cases stepped : Balance.step opening closing depth quoting c with
    | within deeper further =>
      rw [stepped] at ends
      obtain ⟨rfl, stops⟩ := Prod.mk.inj ends
      obtain ⟨code, same⟩ := ih (Prod.ext rfl stops)
      exact ⟨c :: code, by rw [List.take_succ_cons, same, List.cons_append]⟩
    | closed =>
      have closes : c = closing := by
        unfold Balance.step at stepped
        split at stepped <;> try cases stepped
        split at stepped <;> try cases stepped
        split at stepped <;> try cases stepped
        assumption
      rw [stepped] at ends
      have stopped : obey (Balance.rule opening closing) .closed rest = (0, none) := by
        cases rest <;> rfl
      rw [stopped] at ends
      cases ends
      exact ⟨[], by rw [closes]; rfl⟩

theorem obey_balance_ends {opening closing : Char} {text : List Char} {taken : Nat}
    (ahead : text.head? = some opening)
    (ends : obey (Balance.rule opening closing) .start text = (taken, none)) :
    ∃ code, text.take taken = opening :: code ++ [closing] := by
  obtain ⟨rest, rfl⟩ := List.head?_eq_some_iff.mp ahead
  rw [obey] at ends
  have stepped : ∃ depth quoting,
      Balance.step opening closing 0 .plain opening = .within depth quoting := by
    unfold Balance.step
    split
    · exact ⟨_, _, if_pos rfl⟩
    · exact ⟨_, _, rfl⟩
  obtain ⟨depth, quoting, stepped⟩ := stepped
  simp only [Balance.rule, Balance.start, stepped] at ends
  obtain ⟨rfl, stops⟩ := Prod.mk.inj ends
  obtain ⟨code, same⟩ := obey_within_ends (Prod.ext rfl stops)
  exact ⟨code, by rw [List.take_succ_cons, same, List.cons_append]⟩

end Code

namespace Guarded
variable {α β : Type}

def readText? (text : List Char) : Guarded (Option Slice) := do
  let cursor ← get
  if text.isPrefixOf cursor.rest then
    let slice ← readBytes (byteLength text)
    return some slice
  else return none

-- A search answers where a match begins and ends; one that begins later does not count.
def anchored (search : List Char → Option (Nat × Nat)) (text : List Char) : Option Nat :=
  match search text with
  | some (0, stop) => some stop
  | _ => none

def readMatch? (search : List Char → Option (Nat × Nat)) : Guarded (Option Slice) := do
  let cursor ← get
  match search cursor.rest with
  | none => return none
  | some (start, stop) =>
    if start = 0 then
      let slice ← readBytes (byteLength (cursor.rest.take stop))
      return some slice
    else return none

def errorAt (target : Nat) (code : ErrorCode) (message : String) : Guarded TemplateError := do
  let position ← positionAt target
  let _ ← counted { position with line := position.line + 1 }
  let cursor ← get
  return cursor.source.error .tokenizer code position message

def tryBalanced (opening closing : Char) (keep : Bool) : Guarded (Except Fault (List Char)) := do
  let start ← get
  let found ← tryReadWhile (Balance.rule opening closing) .start
  match found with
  | .error failure =>
    let error ← errorAt start.offset .unbalanced failure.message
    return .error (.error error)
  | .ok slice =>
    let run := slice.text.toList
    if keep then return .ok run
    else
      let code ← within opening.utf8Size (byteLength run - closing.utf8Size) run
      return .ok code

def tryHeader (marker : Char) : Guarded (Except Fault Slice) := do
  let start ← get
  let found ← tryBlockHeader? marker
  match found with
  | some header => return .ok header
  | none =>
    let error ← errorAt start.offset .noBlockOpen
      s!"expected `\x7b{marker}` to open the block body"
    return .error (.error error)

def orThrow : Except Fault α → Guarded α
  | .ok value => pure value
  | .error fault => throw (.fault fault)

section Answers
variable {cursor later : Cursor} {answer : β}

theorem ok_of_bind {first : Guarded α} {next : α → Guarded β}
    (done : (first >>= next) cursor = .ok (answer, later)) :
    ∃ value middle, first cursor = .ok (value, middle) ∧
      next value middle = .ok (answer, later) := by
  cases ran : first cursor with
  | error halt =>
    rw [bind_error ran] at done
    cases done
  | ok found =>
    rw [bind_ok ran] at done
    exact ⟨found.1, found.2, rfl, done⟩

theorem wraps {first : Guarded α} {wrap : α → β}
    (done : (do let value ← first; return wrap value : Guarded β) cursor = .ok (answer, later)) :
    ∃ value, answer = wrap value := by
  obtain ⟨value, middle, _, returned⟩ := ok_of_bind done
  cases returned
  exact ⟨value, rfl⟩

-- A run that moves only if a test of the text ahead holds, and fails only if it does not.
theorem stays_unless {held : Prop} [Decidable held] {first : Guarded α} {wrap : α → β}
    {failure : β}
    (done : (if held then (do let value ← first; return wrap value) else return failure :
      Guarded β) cursor = .ok (answer, later))
    (failed : answer = failure) (apart : ∀ value, wrap value ≠ failure) : later = cursor := by
  split at done
  · obtain ⟨value, rfl⟩ := wraps done
    exact absurd failed (apart value)
  · cases done
    rfl

end Answers

-- The readings that end a run when they fail are attempts with a throw behind them.
section Throwing

theorem fail_eq (target : Nat) (code : ErrorCode) (message : String) :
    (fail target code message : Guarded α) =
      (do let error ← errorAt target code message; throw (.fault (.error error))) := by
  simp only [fail, errorAt, bind_assoc, pure_bind]

theorem readPattern?_eq (pattern : Pattern) :
    readPattern? pattern = readMatch? fun text => (pattern.length? text).map (0, ·) := by
  unfold readPattern? readMatch?
  congr
  funext cursor
  dsimp only
  cases pattern.length? cursor.rest <;> rfl

theorem readBalanced_eq (opening closing : Char) (keep : Bool) :
    readBalanced opening closing keep = tryBalanced opening closing keep >>= orThrow := by
  unfold readBalanced tryBalanced
  simp only [bind_assoc]
  congr
  funext start
  congr
  funext found
  cases found with
  | error failure =>
    simp only [fail_eq, bind_assoc, pure_bind]
    rfl
  | ok slice => cases keep <;> simp [orThrow]

theorem readBlockHeader_eq (marker : Char) :
    readBlockHeader marker = tryHeader marker >>= orThrow := by
  unfold readBlockHeader tryHeader
  simp only [bind_assoc]
  congr
  funext start
  congr
  funext found
  cases found with
  | none =>
    simp only [fail_eq, bind_assoc, pure_bind]
    rfl
  | some header => simp [orThrow]

end Throwing

def Still (run : Guarded α) : Prop :=
  ∀ cursor value later, run cursor = .ok (value, later) → later = cursor

section Still

theorem still_get : Still (get : Guarded Cursor) := by
  intro cursor value later done
  cases done
  rfl

theorem still_pure (value : α) : Still (pure value : Guarded α) := by
  intro cursor answer later done
  cases done
  rfl

theorem still_throw (halt : Halt) : Still (throw halt : Guarded α) := by
  intro cursor value later done
  cases done

theorem Still.bind {first : Guarded α} {next : α → Guarded β} (one : Still first)
    (two : ∀ value, Still (next value)) : Still (first >>= next) := by
  intro cursor answer later done
  obtain ⟨value, middle, ran, rest⟩ := ok_of_bind done
  rw [two value middle answer later rest, one cursor value middle ran]

theorem still_allowed (value : Except Misuse α) : Still (allowed value) := by
  cases value with
  | ok value => exact still_pure value
  | error misuse => exact still_throw _

theorem still_within (start stop : Nat) (text : List Char) : Still (within start stop text) := by
  unfold within
  split
  · exact still_pure _
  · exact still_throw _

theorem still_counted (position : Position) : Still (counted position) := by
  unfold counted
  split
  · exact still_pure _
  · exact still_throw _

theorem still_lookBack (target : Nat) : Still (lookBack target) := by
  apply still_get.bind
  intro cursor
  split
  · exact still_pure ()
  · apply (still_within _ _ _).bind
    intro run
    split
    · exact still_pure ()
    · exact still_throw _

theorem still_positionAt (target : Nat) : Still (positionAt target) := by
  apply (still_lookBack target).bind
  intro _
  apply still_get.bind
  intro cursor
  apply (still_allowed _).bind
  exact still_counted

theorem still_errorAt (target : Nat) (code : ErrorCode) (message : String) :
    Still (errorAt target code message) := by
  apply (still_positionAt target).bind
  intro position
  apply (still_counted _).bind
  intro _
  apply still_get.bind
  intro cursor
  exact still_pure _

end Still

section Canonical
variable {source : Source} {cursor later : Cursor}

theorem seek_ok (canonical : Cursor.Canonical source cursor) {target : Nat}
    (done : seek target cursor = .ok ((), later)) :
    Cursor.Canonical source later ∧ later.offset = target := by
  unfold seek moveTo at done
  rw [bind_get] at done
  obtain ⟨moved, _, allows, rest⟩ := ok_of_bind done
  obtain ⟨_, _, _, sets⟩ := ok_of_bind rest
  cases sets
  cases found : cursor.seek target with
  | error misuse =>
    rw [found] at allows
    cases allows
  | ok next =>
    rw [found] at allows
    cases allows
    exact canonical.seek found

theorem skip_at_end (ahead : cursor.rest = []) (count : Nat) : cursor.skip count = cursor := by
  obtain ⟨name, passed, rest, position⟩ := cursor
  subst ahead
  simp [Cursor.skip]

theorem advance_ok (canonical : Cursor.Canonical source cursor) {answer : Option Char}
    (done : advance cursor = .ok (answer, later)) :
    answer = cursor.peek ∧ later = cursor.skip 1 := by
  unfold advance at done
  rw [bind_get] at done
  cases ahead : cursor.rest with
  | nil =>
    have peeked : cursor.peek = none := by rw [Cursor.peek, ahead]; rfl
    rw [peeked] at done
    cases done
    exact ⟨peeked.symm, (skip_at_end ahead 1).symm⟩
  | cons c rest =>
    have peeked : cursor.peek = some c := by rw [Cursor.peek, ahead]; rfl
    rw [peeked] at done
    obtain ⟨_, middle, moved, returned⟩ := ok_of_bind done
    cases returned
    obtain ⟨other, place⟩ := seek_ok canonical moved
    refine ⟨peeked.symm, other.unique (canonical.skip 1) ?_⟩
    rw [place, Cursor.offset_skip, ahead]
    rfl

theorem obeyed_ok (canonical : Cursor.Canonical source cursor) {State : Type}
    {rule : State → Option Char → Verdict State} {state : State} {answer : Option String}
    (done : obeyed rule state cursor = .ok (answer, later)) :
    ∃ run last, cursor.rest = run ++ later.rest ∧ later = cursor.skip run.length ∧
      Takes rule state run last ∧
      ∀ message ∈ answer, rule last later.rest.head? = .refuse message := by
  induction size : cursor.rest.length using Nat.strongRecOn generalizing cursor state with
  | _ length ih =>
    subst size
    rw [obeyed] at done
    cases verdict : rule state cursor.peek with
    | stop =>
      rw [verdict] at done
      cases done
      exact ⟨[], state, rfl, (Cursor.skip_zero _).symm, .nil, by simp⟩
    | refuse message =>
      rw [verdict] at done
      cases done
      refine ⟨[], state, rfl, (Cursor.skip_zero _).symm, .nil, ?_⟩
      rintro _ ⟨⟩
      exact verdict
    | take next =>
      rw [verdict] at done
      cases moved : advance cursor with
      | error halt =>
        rw [moved] at done
        cases done
      | ok found =>
        obtain ⟨_, middle⟩ := found
        obtain ⟨rfl, rfl⟩ := advance_ok canonical moved
        rw [moved] at done
        cases ahead : cursor.rest with
        | nil =>
          rw [show cursor.peek = none by rw [Cursor.peek, ahead]; rfl] at done
          cases done
          rw [skip_at_end ahead 1]
          exact ⟨[], state, ahead.symm, (Cursor.skip_zero _).symm, .nil, by simp⟩
        | cons c rest =>
          have peeked : cursor.peek = some c := by rw [Cursor.peek, ahead]; rfl
          have shorter : (cursor.skip 1).rest.length < cursor.rest.length := by simp [ahead]
          rw [peeked] at done verdict
          simp only [dif_pos shorter] at done
          obtain ⟨run, last, splits, place, takes, refuses⟩ :=
            ih _ shorter (canonical.skip 1) done rfl
          refine ⟨c :: run, last, ?_, ?_, .cons verdict takes, refuses⟩
          · rw [List.cons_append, ← splits, Cursor.rest_skip, ahead]
            rfl
          · rw [place, Cursor.skip_skip, List.length_cons, Nat.add_comm]

-- What a rule refused: the rune behind a run that it took, or the end of the source behind it. The
-- failure tells the place of that rune as the line table has it.
structure RefusedAt {State : Type} (source : Source) (cursor : Cursor)
    (rule : State → Option Char → Verdict State) (state : State) (failure : ScanFailure)
    (run rest : List Char) : Prop where
  ahead : cursor.rest = run ++ rest
  refuses : ∃ last, Takes rule state run last ∧ rule last rest.head? = .refuse failure.message
  boundary : source.IsBoundary (cursor.offset + byteLength run)
  place : failure.position = source.positionAt (cursor.offset + byteLength run)
  ending : rest = [] → failure.position = source.positionAt source.bytes

theorem tryReadWhile_refused (canonical : Cursor.Canonical source cursor) {State : Type}
    {rule : State → Option Char → Verdict State} {state : State} {failure : ScanFailure}
    (done : tryReadWhile rule state cursor = .ok (.error failure, later)) :
    later = cursor ∧ ∃ run rest, RefusedAt source cursor rule state failure run rest := by
  unfold tryReadWhile at done
  rw [bind_get] at done
  obtain ⟨refusal, middle, walked, done⟩ := ok_of_bind done
  rw [bind_get] at done
  obtain ⟨run, last, splits, place, takes, refuses⟩ := obeyed_ok canonical walked
  have further : Cursor.Canonical source middle := place ▸ canonical.skip run.length
  cases refusal with
  | none =>
    obtain ⟨slice, wrapped⟩ := wraps done
    cases wrapped
  | some message =>
    obtain ⟨_, _, moved, returned⟩ := ok_of_bind done
    cases returned
    obtain ⟨back, same⟩ := seek_ok further moved
    have offset : middle.offset = cursor.offset + byteLength run := by
      rw [place, Cursor.offset_skip, splits, List.take_left]
    refine ⟨back.unique canonical same, run, middle.rest, splits, ?_, ?_, ?_, ?_⟩
    · exact ⟨last, takes, refuses message rfl⟩
    · rw [← offset]
      exact further.isBoundary
    · rw [← offset]
      exact further.position_eq
    · intro ending
      have all : middle.offset = source.bytes := by
        rw [further.offset_eq, Source.bytes, ← further.text, ending, List.append_nil]
      rw [← all]
      exact further.position_eq

end Canonical

-- Sources whose every line fits, and the line after it.
def Roomy (source : Source) : Prop := source.bytes + 1 < maxCount

section Answers
variable {source : Source} {cursor start : Cursor}

theorem Roomy.ready (roomy : Roomy source) (canonical : Cursor.Canonical source cursor) :
    Ready source cursor :=
  ⟨canonical, Nat.lt_of_succ_lt roomy⟩

theorem does_readText? (ready : Ready source cursor) (text : List Char) :
    Does (readText? text) cursor (orNone (cursor.readText? text)) := by
  unfold Does readText? Cursor.readText?
  rw [bind_get]
  by_cases ahead : text.isPrefixOf cursor.rest = true
  · have taken := does_readBytes ready text.length
    rw [← List.prefix_iff_eq_take.mp (List.isPrefixOf_iff_prefix.mp ahead)] at taken
    rw [if_pos ahead, if_pos ahead]
    exact bind_ok taken
  · rw [if_neg ahead, if_neg ahead]
    simp [orNone, Cursor.after]

theorem does_readMatch? (ready : Ready source cursor)
    (search : List Char → Option (Nat × Nat)) :
    Does (readMatch? search) cursor (orNone (cursor.readMatch? (anchored search))) := by
  unfold Does readMatch? Cursor.readMatch? anchored
  rw [bind_get]
  cases search cursor.rest with
  | none => simp [orNone, Cursor.after]
  | some found =>
    obtain ⟨start, stop⟩ := found
    cases start with
    | zero => exact bind_ok (does_readBytes ready stop)
    | succ later => simp [orNone, Cursor.after]

theorem errorAt_offset (ready : Ready source cursor) (roomy : Roomy source)
    (other : Cursor.Canonical source start) (code : ErrorCode) (message : String) :
    errorAt start.offset code message cursor = .ok (start.errorHere code message, cursor) := by
  have bounded := Position.afterRun_bounded Position.start start.passed.reverse
  rw [← other.counted, ← other.offset_eq] at bounded
  have first : Position.start.line = 1 ∧ Position.start.column = 1 := ⟨rfl, rfl⟩
  have within := other.isBoundary.le_bytes
  have fits : start.position.line + 1 ≤ maxCount ∧ start.position.column ≤ maxCount := by
    unfold Roomy at roomy
    omega
  have next : counted { start.position with line := start.position.line + 1 } cursor =
      .ok ({ start.position with line := start.position.line + 1 }, cursor) := by
    rw [counted, if_pos fits]
    rfl
  unfold errorAt
  rw [bind_ok (positionAt_offset ready other), bind_ok next, bind_get, pure_apply,
    Cursor.errorHere, ready.canonical.source_eq, other.source_eq]

theorem does_tryBalanced (roomy : Roomy source) (canonical : Cursor.Canonical source cursor)
    {opening : Char} (ahead : cursor.rest.head? = some opening) (closing : Char) (keep : Bool) :
    Does (tryBalanced opening closing keep) cursor
      (orError (cursor.readBalanced opening closing keep)) := by
  have ready := roomy.ready canonical
  have read := does_tryReadWhile ready (Balance.rule opening closing) .start
  unfold Cursor.tryReadWhile at read
  unfold Cursor.readBalanced Does tryBalanced
  rw [bind_get]
  rcases obeyed : obey (Balance.rule opening closing) .start cursor.rest with ⟨taken, refusal⟩
  rw [obeyed] at read
  rw [bind_ok read]
  cases refusal with
  | some message => exact bind_ok (errorAt_offset (ready.skip 0) roomy canonical _ _)
  | none =>
    obtain ⟨code, run⟩ := obey_balance_ends ahead obeyed
    have inner : between? opening.utf8Size
        (byteLength (cursor.rest.take taken) - closing.utf8Size) (cursor.rest.take taken) =
        some code := by
      rw [run]
      exact Cursor.between?_delimiters opening closing code
    have text : (cursor.ahead taken).text.toList = cursor.rest.take taken := by
      simp [Cursor.ahead, Cursor.spanTo]
    simp only [inner]
    cases keep with
    | true => exact congrArg (fun run => Except.ok (Except.ok run, cursor.skip taken)) text
    | false =>
      rw [← text] at inner
      exact bind_ok (within_ok inner)

theorem does_tryHeader (roomy : Roomy source) (canonical : Cursor.Canonical source cursor)
    (marker : Char) :
    Does (tryHeader marker) cursor
      (orError ((cursor.readBlockHeader marker).mapError Fault.error)) := by
  have ready := roomy.ready canonical
  have read := does_tryBlockHeader? ready marker
  unfold Does tryHeader Cursor.readBlockHeader
  rw [bind_get, bind_ok read]
  cases cursor.tryBlockHeader? marker with
  | some header => rfl
  | none => exact bind_ok (errorAt_offset (ready.skip 0) roomy canonical _ _)

end Answers

-- An attempt that answers its failure has not moved, or is back, whatever the size of the source.
-- In a roomy source it answers what the reading does, and never halts on the way.
structure Attempt {α : Type} (source : Source) (cursor : Cursor) (run : Guarded α)
    (failed : α → Prop) (read : Read α) : Prop where
  stays : ∀ answer later, run cursor = .ok (answer, later) → failed answer → later = cursor
  answers : Roomy source → Does run cursor read

def IsError {ε α : Type} (answer : Except ε α) : Prop := ∃ error, answer = .error error

section Attempts
variable {source : Source} {cursor : Cursor}

theorem attempt_consume (canonical : Cursor.Canonical source cursor) (expected : Char) :
    Attempt source cursor (consume expected) (· = false) (cursor.consume expected) where
  answers roomy := does_consume (roomy.ready canonical) expected
  stays answer later done failed := by
    unfold consume at done
    rw [bind_get] at done
    exact stays_unless done failed (by simp)

theorem attempt_readText? (canonical : Cursor.Canonical source cursor) (text : List Char) :
    Attempt source cursor (readText? text) (· = none) (orNone (cursor.readText? text)) where
  answers roomy := does_readText? (roomy.ready canonical) text
  stays answer later done failed := by
    unfold readText? at done
    rw [bind_get] at done
    exact stays_unless done failed (by simp)

theorem attempt_readMatch? (canonical : Cursor.Canonical source cursor)
    (search : List Char → Option (Nat × Nat)) :
    Attempt source cursor (readMatch? search) (· = none)
      (orNone (cursor.readMatch? (anchored search))) where
  answers roomy := does_readMatch? (roomy.ready canonical) search
  stays answer later done failed := by
    unfold readMatch? at done
    rw [bind_get] at done
    cases found : search cursor.rest with
    | none =>
      rw [found] at done
      cases done
      rfl
    | some place =>
      rw [found] at done
      exact stays_unless done failed (by simp)

theorem attempt_readIdentifier? (canonical : Cursor.Canonical source cursor) :
    Attempt source cursor readIdentifier? (· = none) (orNone cursor.readIdentifier?) where
  answers roomy := does_readIdentifier? (roomy.ready canonical)
  stays answer later done failed := by
    unfold readIdentifier? at done
    rw [bind_get] at done
    exact stays_unless done failed (by simp)

theorem attempt_tryBlockHeader? (canonical : Cursor.Canonical source cursor) (marker : Char) :
    Attempt source cursor (tryBlockHeader? marker) (· = none)
      (orNone (cursor.tryBlockHeader? marker)) where
  answers roomy := does_tryBlockHeader? (roomy.ready canonical) marker
  stays answer later done failed := by
    unfold tryBlockHeader? at done
    rw [bind_get] at done
    cases found : header? marker cursor.rest with
    | none =>
      rw [found] at done
      cases done
      rfl
    | some code =>
      rw [found] at done
      obtain ⟨_, _, _, rest⟩ := ok_of_bind done
      obtain ⟨_, rfl⟩ := wraps rest
      cases failed

theorem attempt_tryReadWhile (canonical : Cursor.Canonical source cursor) {State : Type}
    (rule : State → Option Char → Verdict State) (state : State) :
    Attempt source cursor (tryReadWhile rule state) IsError
      (orError (cursor.tryReadWhile rule state)) where
  answers roomy := does_tryReadWhile (roomy.ready canonical) rule state
  stays answer later done failed := by
    obtain ⟨failure, rfl⟩ := failed
    exact (tryReadWhile_refused canonical done).1

-- The walk to the end of the source is undone before the error looks up its place.
theorem attempt_tryBalanced (canonical : Cursor.Canonical source cursor) {opening : Char}
    (ahead : cursor.rest.head? = some opening) (closing : Char) (keep : Bool) :
    Attempt source cursor (tryBalanced opening closing keep) IsError
      (orError (cursor.readBalanced opening closing keep)) where
  answers roomy := does_tryBalanced roomy canonical ahead closing keep
  stays answer later done failed := by
    obtain ⟨fault, rfl⟩ := failed
    unfold tryBalanced at done
    rw [bind_get] at done
    obtain ⟨found, middle, read, done⟩ := ok_of_bind done
    cases found with
    | error failure =>
      obtain ⟨_, _, showed, returned⟩ := ok_of_bind done
      cases returned
      rw [still_errorAt _ _ _ _ _ _ showed, (tryReadWhile_refused canonical read).1]
    | ok slice =>
      cases keep with
      | true => cases done
      | false =>
        obtain ⟨_, wrapped⟩ := wraps done
        cases wrapped

theorem attempt_tryHeader (canonical : Cursor.Canonical source cursor) (marker : Char) :
    Attempt source cursor (tryHeader marker) IsError
      (orError ((cursor.readBlockHeader marker).mapError Fault.error)) where
  answers roomy := does_tryHeader roomy canonical marker
  stays answer later done failed := by
    obtain ⟨error, rfl⟩ := failed
    unfold tryHeader at done
    rw [bind_get] at done
    obtain ⟨found, middle, read, done⟩ := ok_of_bind done
    cases found with
    | some header => cases done
    | none =>
      obtain ⟨_, _, showed, returned⟩ := ok_of_bind done
      cases returned
      rw [still_errorAt _ _ _ _ _ _ showed]
      exact (attempt_tryBlockHeader? canonical marker).stays _ _ read rfl

end Attempts

-- Every attempt of the input and of the lexer that can fail without ending the run. Balanced code
-- is read from its opening delimiter.
structure FailuresStay (source : Source) (cursor : Cursor) : Prop where
  consume : ∀ expected,
    Attempt source cursor (consume expected) (· = false) (cursor.consume expected)
  text : ∀ text, Attempt source cursor (readText? text) (· = none) (orNone (cursor.readText? text))
  pattern : ∀ search, Attempt source cursor (readMatch? search) (· = none)
    (orNone (cursor.readMatch? (anchored search)))
  ruled : ∀ {State : Type} (rule : State → Option Char → Verdict State) state,
    Attempt source cursor (tryReadWhile rule state) IsError
      (orError (cursor.tryReadWhile rule state))
  refused : ∀ {State : Type} (rule : State → Option Char → Verdict State) state failure later,
    tryReadWhile rule state cursor = .ok (.error failure, later) →
    ∃ run rest, RefusedAt source cursor rule state failure run rest
  identifier : Attempt source cursor readIdentifier? (· = none) (orNone cursor.readIdentifier?)
  header : ∀ marker, Attempt source cursor (tryBlockHeader? marker) (· = none)
    (orNone (cursor.tryBlockHeader? marker))
  balanced : ∀ opening closing keep, cursor.rest.head? = some opening →
    Attempt source cursor (tryBalanced opening closing keep) IsError
      (orError (cursor.readBalanced opening closing keep))
  blockHeader : ∀ marker, Attempt source cursor (tryHeader marker) IsError
    (orError ((cursor.readBlockHeader marker).mapError Fault.error))

theorem failuresStay_of_reached {source : Source} {session : Cursor.Session}
    (reached : session.Reached source) : FailuresStay source session.current := by
  have canonical := reached.canonical.1
  exact {
    consume := attempt_consume canonical
    text := attempt_readText? canonical
    pattern := attempt_readMatch? canonical
    ruled := attempt_tryReadWhile canonical
    refused := fun _ _ _ _ done => (tryReadWhile_refused canonical done).2
    identifier := attempt_readIdentifier? canonical
    header := attempt_tryBlockHeader? canonical
    balanced := fun _ closing keep ahead => attempt_tryBalanced canonical ahead closing keep
    blockHeader := attempt_tryHeader canonical }

-- Code that is never closed, read from the second line to the end of the source on the third.
theorem failuresStay_over_lines :
    ∃ session : Cursor.Session, session.Reached ⟨"t", ['a', '\n', '◊', '{', 'é', '\n', 'b']⟩ ∧
      session.current.position = ⟨5, 2, 2⟩ ∧
      tryReadWhile (Balance.rule '{' '}') .start session.current =
        .ok (.error ⟨⟨10, 3, 2⟩, "missing closing \x60\x7d\x60"⟩, session.current) ∧
      FailuresStay ⟨"t", ['a', '\n', '◊', '{', 'é', '\n', 'b']⟩ session.current := by
  let source : Source := ⟨"t", ['a', '\n', '◊', '{', 'é', '\n', 'b']⟩
  have reached : Cursor.Session.Reached source
      ⟨(Cursor.ofSource source).after ((Cursor.ofSource source).readWhile (· ≠ '{')), []⟩ :=
    .step .start (.move (.take (.run (· ≠ '{'))))
  have stay := failuresStay_of_reached reached
  have roomy : Roomy source := by
    unfold Roomy
    decide
  exact ⟨_, reached, rfl, (stay.ruled _ _).answers roomy, stay⟩

end Guarded
end TemplateCompiler
