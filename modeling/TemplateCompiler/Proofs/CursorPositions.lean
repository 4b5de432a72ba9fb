import TemplateCompiler.Cursor.Read
import TemplateCompiler.Proofs.LineTable

namespace TemplateCompiler
open Text

namespace Position

theorem afterRun_bounded (position : Position) (run : List Char) :
    (position.afterRun run).line ≤ position.line + byteLength run ∧
      (position.afterRun run).column ≤ position.column + byteLength run := by
  induction run generalizing position with
  | nil => exact ⟨Nat.le_refl _, Nat.le_refl _⟩
  | cons c rest ih =>
    have wide := c.utf8Size_pos
    have stepped : (position.after c).line ≤ position.line + 1 ∧
        (position.after c).column ≤ position.column + 1 := by
      unfold after
      split <;> simp
    have later := ih (position.after c)
    rw [afterRun_cons, byteLength_cons]
    omega

end Position

namespace Cursor

theorem offset_skip (cursor : Cursor) (count : Nat) :
    (cursor.skip count).offset = cursor.offset + byteLength (cursor.rest.take count) := by
  simp only [offset, Cursor.skip, Position.offset_afterRun]

-- The invariant of every cursor of a source: it divides the source's text, and its position is
-- counted from the start of that text.
structure Canonical (source : Source) (cursor : Cursor) : Prop where
  name : cursor.name = source.name
  text : cursor.passed.reverse ++ cursor.rest = source.text
  counted : cursor.position = Position.start.afterRun cursor.passed.reverse

section Canonical
variable {source : Source} {cursor next : Cursor}

theorem canonical_ofSource (source : Source) : Canonical source (ofSource source) :=
  ⟨rfl, rfl, rfl⟩

theorem Canonical.source_eq (canonical : Canonical source cursor) : cursor.source = source := by
  obtain ⟨name, text⟩ := source
  simp only [Cursor.source, canonical.name, canonical.text]

theorem Canonical.offset_eq (canonical : Canonical source cursor) :
    cursor.offset = byteLength cursor.passed.reverse := by
  rw [offset, canonical.counted, Position.offset_afterRun]
  exact Nat.zero_add _

theorem Canonical.isBoundary (canonical : Canonical source cursor) :
    source.IsBoundary cursor.offset :=
  ⟨_, _, canonical.text.symm, canonical.offset_eq.symm⟩

theorem Canonical.position_eq (canonical : Canonical source cursor) :
    cursor.position = source.positionAt cursor.offset := by
  rw [canonical.counted, canonical.offset_eq, Source.positionAt_eq_afterRun canonical.text.symm]

theorem Canonical.unique (left : Canonical source cursor) (right : Canonical source next)
    (same : cursor.offset = next.offset) : cursor = next := by
  rw [left.offset_eq, right.offset_eq] at same
  obtain ⟨middle, grown, ends⟩ :=
    split_of_le (left.text.trans right.text.symm) (Nat.le_of_eq same)
  have empty : middle = [] := by
    rw [grown, byteLength_append] at same
    exact byteLength_eq_zero.mp (by omega)
  subst empty
  have passed : next.passed = cursor.passed := by simpa using grown
  have position := left.counted.trans (passed ▸ right.counted.symm)
  have names := left.name.trans right.name.symm
  obtain ⟨name, behind, ahead, place⟩ := cursor
  obtain ⟨otherName, otherBehind, otherAhead, otherPlace⟩ := next
  simp only [List.nil_append] at ends
  simp only at passed position names
  rw [passed, position, ends, names]

theorem Canonical.skip (canonical : Canonical source cursor) (count : Nat) :
    Canonical source (cursor.skip count) := by
  refine ⟨canonical.name, ?_, ?_⟩
  · simpa [Cursor.skip] using canonical.text
  · simp only [Cursor.skip, List.reverse_append, List.reverse_reverse]
    rw [Position.afterRun_append, ← canonical.counted]

theorem Canonical.seek (canonical : Canonical source cursor) {target : Nat}
    (moved : cursor.seek target = .ok next) : Canonical source next ∧ next.offset = target := by
  unfold Cursor.seek at moved
  split at moved
  · rename_i forward
    split at moved
    · rename_i run rest falls
      obtain ⟨splits, bytes⟩ := cut_between falls
      cases Except.ok.inj moved
      refine ⟨canonical.skip _, ?_⟩
      rw [offset_skip, splits, List.take_left, bytes]
      omega
    · cases moved
    · cases moved
  · rw [canonical.source_eq] at moved
    split at moved
    · rename_i before after falls
      obtain ⟨splits, bytes⟩ := cut_between falls
      cases Except.ok.inj moved
      have counted := Source.positionAt_eq_afterRun splits
      rw [bytes] at counted
      exact ⟨⟨canonical.name, by simp [splits], by simp [counted]⟩, rfl⟩
    · cases moved
    · cases moved

theorem Canonical.seek_boundary (canonical : Canonical source cursor) {target : Nat}
    (boundary : source.IsBoundary target) : ∃ next, cursor.seek target = .ok next := by
  obtain ⟨before, after, splits, rfl⟩ := boundary
  unfold Cursor.seek
  rw [canonical.source_eq]
  split
  · rename_i forward
    rw [canonical.offset_eq] at forward
    obtain ⟨run, grown, ahead⟩ := split_of_le (canonical.text.trans splits) forward
    have distance : byteLength before - cursor.offset = byteLength run := by
      rw [canonical.offset_eq, grown, byteLength_append]
      omega
    rw [distance, ahead, cut_append]
    exact ⟨_, rfl⟩
  · rw [splits, cut_append]
    exact ⟨_, rfl⟩

theorem Canonical.seek_offset (canonical : Canonical source cursor)
    (other : Canonical source next) : cursor.seek next.offset = .ok next := by
  obtain ⟨reached, moved⟩ := canonical.seek_boundary other.isBoundary
  obtain ⟨valid, same⟩ := canonical.seek moved
  rw [moved, valid.unique other same]

theorem Canonical.unshift (canonical : Canonical source cursor) {expected : String}
    (moved : cursor.unshift expected = .ok next) : Canonical source next := by
  unfold Cursor.unshift at moved
  split at moved
  · exact (canonical.seek moved).1
  · cases moved

theorem Canonical.unshift_skip (canonical : Canonical source cursor) (count : Nat) :
    (cursor.skip count).unshift (cursor.ahead count).text = .ok cursor := by
  have text : (cursor.ahead count).text.toList = cursor.rest.take count := by
    simp [ahead, spanTo]
  have behind : (cursor.rest.take count).reverse.isPrefixOf (cursor.skip count).passed := by
    simp [Cursor.skip]
  have back : (cursor.skip count).offset - byteLength (cursor.rest.take count) =
      cursor.offset := by
    rw [offset_skip]
    omega
  rw [Cursor.unshift, text, if_pos behind, back]
  exact (canonical.skip count).seek_offset canonical

theorem Canonical.positionAt_boundary (canonical : Canonical source cursor) {target : Nat}
    (boundary : source.IsBoundary target) :
    cursor.positionAt target = .ok (source.positionAt target) := by
  obtain ⟨before, after, splits, rfl⟩ := boundary
  have split := canonical.text.trans splits
  rw [Source.positionAt_eq_afterRun splits]
  unfold Cursor.positionAt
  split
  · rename_i forward
    rw [canonical.offset_eq] at forward
    obtain ⟨run, grown, ahead⟩ := split_of_le split forward
    have distance : byteLength before - cursor.offset = byteLength run := by
      rw [canonical.offset_eq, grown, byteLength_append]
      omega
    rw [distance, ahead, cut_append, canonical.counted, grown, Position.afterRun_append]
  · rename_i backward
    rw [canonical.offset_eq, Nat.not_le] at backward
    obtain ⟨run, grown, behind⟩ := split_of_le split.symm (Nat.le_of_lt backward)
    rw [grown, cut_append]
    simp only
    split
    · rw [canonical.source_eq, Source.positionAt_eq_afterRun splits]
    · -- The runes from the target to the cursor lie on one line, so they are part of its column.
      rename_i inline
      have counted := canonical.counted
      rw [grown, Position.afterRun_append, Position.afterRun_inline _ inline] at counted
      rw [counted]
      simp only [Nat.add_sub_cancel, Except.ok.injEq]
      have bytes := Position.offset_afterRun Position.start before
      rw [show Position.start.offset = 0 from rfl, Nat.zero_add] at bytes
      rw [← bytes]

theorem Canonical.sliceWithText_boundary (canonical : Canonical source cursor) {first last : Nat}
    (start : source.IsBoundary first) (stop : source.IsBoundary last) (ordered : first ≤ last)
    (text : String) : cursor.sliceWithText first last text =
      .ok ⟨source.name, text, source.positionAt first, source.positionAt last⟩ := by
  unfold sliceWithText
  rw [canonical.positionAt_boundary start, canonical.positionAt_boundary stop]
  exact canonical.name ▸ if_pos ordered

theorem Canonical.slice_between (canonical : Canonical source cursor) {first last : Nat}
    {run : List Char} (covered : between? first last source.text = some run) :
    cursor.slice first last = .ok ⟨source.name, String.ofList run, source.positionAt first,
      source.positionAt last⟩ := by
  have found := between?_eq_some covered
  unfold Cursor.slice
  rw [canonical.source_eq, covered]
  obtain ⟨left, right, splits, rfl, rfl⟩ := found
  apply canonical.sliceWithText_boundary
  · exact ⟨left, run ++ right, by rw [splits, List.append_assoc], rfl⟩
  · exact ⟨left ++ run, right, splits, rfl⟩
  · rw [byteLength_append]
    exact Nat.le_add_right _ _

-- The code looks back over a run to give it its place; that is the slice from one cursor to the
-- other.
theorem Canonical.slice_skip (canonical : Canonical source cursor) (count : Nat) :
    (cursor.skip count).slice cursor.offset (cursor.skip count).offset =
      .ok (cursor.ahead count) := by
  have later := canonical.skip count
  have covered : between? cursor.offset (cursor.skip count).offset source.text =
      some (cursor.rest.take count) := by
    have run := between?_append cursor.passed.reverse (cursor.rest.take count)
      (cursor.rest.drop count)
    rw [List.append_assoc, List.take_append_drop, canonical.text] at run
    rwa [offset_skip, canonical.offset_eq]
  rw [later.slice_between covered, ← canonical.position_eq, ← later.position_eq,
    ← canonical.name]
  rfl

end Canonical

inductive Reads (cursor : Cursor) : Read Slice → Prop
  | text {text found} (accepted : cursor.readText? text = some found) : Reads cursor found
  | matching {matcher found} (accepted : cursor.readMatch? matcher = some found) :
      Reads cursor found
  | run (set : Char → Bool) : Reads cursor (cursor.readWhile set)
  | textRun (marker : Char) : Reads cursor (cursor.readTextRun marker)
  | ruled {State : Type} {rule : State → Option Char → Code.Verdict State} {state : State} {found}
      (accepted : cursor.tryReadWhile rule state = .ok found) : Reads cursor found

theorem Reads.is_take {cursor : Cursor} {found : Read Slice} (reads : Reads cursor found) :
    ∃ count, found = cursor.take count := by
  cases reads with
  | text accepted =>
    unfold readText? at accepted
    split at accepted
    · exact ⟨_, (Option.some.inj accepted).symm⟩
    · cases accepted
  | matching accepted =>
    obtain ⟨count, _, same⟩ := Option.map_eq_some_iff.mp accepted
    exact ⟨count, same.symm⟩
  | run set => exact ⟨_, rfl⟩
  | textRun marker => exact ⟨_, rfl⟩
  | ruled accepted =>
    unfold tryReadWhile at accepted
    split at accepted
    · exact ⟨_, (Except.ok.inj accepted).symm⟩
    · cases accepted

-- One operation on a cursor. A rule that refuses a rune has gone up to it and seeks back to where
-- it began.
inductive Move (cursor : Cursor) : Cursor → Prop
  | advance : Move cursor (cursor.after cursor.advance)
  | consume (expected : Char) : Move cursor (cursor.after (cursor.consume expected))
  | take {found} (reads : Reads cursor found) : Move cursor (cursor.after found)
  | rewind {State : Type} {rule : State → Option Char → Code.Verdict State} {state : State}
      {taken message next} (refused : Code.obey rule state cursor.rest = (taken, some message))
      (back : (cursor.skip taken).seek cursor.offset = .ok next) : Move cursor next
  | seek {target next} (moved : cursor.seek target = .ok next) : Move cursor next
  | unshift {expected next} (moved : cursor.unshift expected = .ok next) : Move cursor next

theorem Canonical.move {source : Source} {cursor next : Cursor}
    (canonical : Canonical source cursor) (move : Move cursor next) : Canonical source next := by
  cases move with
  | advance | consume | take => exact canonical.skip _
  | rewind refused back => exact ((canonical.skip _).seek back).1
  | seek moved => exact (canonical.seek moved).1
  | unshift moved => exact canonical.unshift moved

structure Session where
  current : Cursor
  kept : List Cursor

namespace Session

inductive Step (session : Session) : Session → Prop
  | move {next} (moved : Move session.current next) : Step session { session with current := next }
  | keep : Step session { session with kept := session.current :: session.kept }
  | restore {clone} (known : clone ∈ session.kept) : Step session { session with current := clone }

inductive Reached (source : Source) : Session → Prop
  | start : Reached source ⟨ofSource source, []⟩
  | step {earlier later} (prior : Reached source earlier) (step : Step earlier later) :
      Reached source later

def Canonical (source : Source) (session : Session) : Prop :=
  Cursor.Canonical source session.current ∧
    ∀ clone ∈ session.kept, Cursor.Canonical source clone

theorem Canonical.step {source : Source} {earlier later : Session}
    (canonical : Canonical source earlier) (step : Step earlier later) : Canonical source later := by
  obtain ⟨current, kept⟩ := canonical
  cases step with
  | move moved => exact ⟨current.move moved, kept⟩
  | keep =>
    refine ⟨current, ?_⟩
    intro clone member
    rcases List.mem_cons.mp member with rfl | old
    · exact current
    · exact kept clone old
  | restore known => exact ⟨kept _ known, kept⟩

theorem Reached.canonical {source : Source} {session : Session}
    (reached : Reached source session) : Canonical source session := by
  induction reached with
  | start => exact ⟨canonical_ofSource source, by simp⟩
  | step prior step ih => exact ih.step step

end Session

-- What a cursor says of places in its source is what the line table says: of its own place, of
-- every boundary it resolves, and so of every slice and error it builds. Giving a slice back
-- undoes the reading that took it. Columns count from one, so that no subtraction on a line goes
-- below it, and in a short source every line and column fits in 32 bits.
structure TruePositions (source : Source) (cursor : Cursor) : Prop where
  boundary : source.IsBoundary cursor.offset ∧ cursor.offset ≤ source.bytes
  tracked : cursor.position = source.positionAt cursor.offset
  resolved : ∀ target, source.IsBoundary target →
    cursor.positionAt target = .ok (source.positionAt target)
  spanned : ∀ first last text, source.IsBoundary first → source.IsBoundary last → first ≤ last →
    cursor.sliceWithText first last text =
      .ok ⟨source.name, text, source.positionAt first, source.positionAt last⟩
  sliced : ∀ first last run, between? first last source.text = some run →
    cursor.slice first last = .ok ⟨source.name, String.ofList run, source.positionAt first,
      source.positionAt last⟩
  placed : ∀ target code message, source.IsBoundary target →
    cursor.errorAt target code message = .ok (source.errorAt .tokenizer code target message)
  refused : ∀ {State : Type} (rule : State → Option Char → Code.Verdict State) state failure,
    cursor.tryReadWhile rule state = .error failure →
    ∃ target, source.IsBoundary target ∧ failure.position = source.positionAt target
  taken : ∀ found, Reads cursor found →
    (cursor.after found).slice cursor.offset (cursor.after found).offset = .ok found.value ∧
    (cursor.after found).unshift found.value.text = .ok cursor
  narrow : ∀ target, source.IsBoundary target → 0 < (source.positionAt target).column ∧
    (source.bytes < 0xFFFFFFFF → (source.positionAt target).line ≤ 0xFFFFFFFF ∧
      (source.positionAt target).column ≤ 0xFFFFFFFF)

theorem Canonical.refused {source : Source} {cursor : Cursor}
    (canonical : Canonical source cursor) {State : Type}
    (rule : State → Option Char → Code.Verdict State) (state : State) (failure : ScanFailure)
    (failed : cursor.tryReadWhile rule state = .error failure) :
    ∃ target, source.IsBoundary target ∧ failure.position = source.positionAt target := by
  unfold tryReadWhile at failed
  split at failed
  · cases failed
  · cases Except.error.inj failed
    have later := canonical.skip (Code.obey rule state cursor.rest).1
    simp only [*] at later
    exact ⟨_, later.isBoundary, later.position_eq⟩

theorem narrow_position {source : Source} {target : Nat} (boundary : source.IsBoundary target) :
    0 < (source.positionAt target).column ∧
    (source.bytes < 0xFFFFFFFF → (source.positionAt target).line ≤ 0xFFFFFFFF ∧
      (source.positionAt target).column ≤ 0xFFFFFFFF) := by
  have within := boundary.le_bytes
  obtain ⟨before, after, splits, rfl⟩ := boundary
  rw [Source.positionAt_eq_afterRun splits]
  refine ⟨Position.column_pos before, ?_⟩
  intro short
  have bounded := Position.afterRun_bounded Position.start before
  simp only [Position.start] at bounded ⊢
  omega

theorem Canonical.truePositions {source : Source} {cursor : Cursor}
    (canonical : Canonical source cursor) : TruePositions source cursor where
  boundary := ⟨canonical.isBoundary, canonical.isBoundary.le_bytes⟩
  tracked := canonical.position_eq
  resolved _ boundary := canonical.positionAt_boundary boundary
  spanned _ _ text start stop ordered := canonical.sliceWithText_boundary start stop ordered text
  sliced _ _ _ covered := canonical.slice_between covered
  placed target code message boundary := by
    unfold errorAt
    rw [canonical.positionAt_boundary boundary, canonical.source_eq]
    rfl
  refused := canonical.refused
  taken found reads := by
    obtain ⟨count, rfl⟩ := reads.is_take
    exact ⟨canonical.slice_skip count, canonical.unshift_skip count⟩
  narrow _ boundary := narrow_position boundary

theorem truePositions_of_reached {source : Source} {session : Session}
    (reached : session.Reached source) : TruePositions source session.current :=
  reached.canonical.1.truePositions

-- A line read to its end and into the next one, a clone kept, then a way back over the newline.
theorem truePositions_after_way_back :
    ∃ session : Session, session.Reached ⟨"t", ['a', 'é', '\n', 'b', '◊', 'c']⟩ ∧
      session.current = ⟨"t", ['a'], ['é', '\n', 'b', '◊', 'c'], ⟨1, 1, 2⟩⟩ ∧
      TruePositions ⟨"t", ['a', 'é', '\n', 'b', '◊', 'c']⟩ session.current := by
  let source : Source := ⟨"t", ['a', 'é', '\n', 'b', '◊', 'c']⟩
  let ahead := (ofSource source).after ((ofSource source).readWhile (· ≠ '◊'))
  have moved : ahead.seek 1 = .ok ⟨"t", ['a'], ['é', '\n', 'b', '◊', 'c'], ⟨1, 1, 2⟩⟩ := rfl
  have reached := ((Session.Reached.start.step (.move (.take (.run (· ≠ '◊'))))).step .keep).step
    (.move (.seek moved))
  exact ⟨_, reached, rfl, truePositions_of_reached reached⟩

end Cursor
end TemplateCompiler
