import TemplateCompiler.Source.Lines

namespace TemplateCompiler
open Text

theorem Text.length_le_byteLength (text : List Char) : text.length ≤ byteLength text := by
  induction text with
  | nil => exact Nat.le_refl 0
  | cons c rest ih =>
    have wide := c.utf8Size_pos
    rw [List.length_cons, byteLength_cons]
    omega

-- An offset between two runes, or at either end of the text.
def Source.IsBoundary (source : Source) (offset : Nat) : Prop :=
  ∃ before after, source.text = before ++ after ∧ byteLength before = offset

namespace Position

theorem offset_after (position : Position) (c : Char) :
    (position.after c).offset = position.offset + c.utf8Size := by
  unfold after
  split <;> rfl

theorem offset_afterRun (position : Position) (run : List Char) :
    (position.afterRun run).offset = position.offset + byteLength run := by
  induction run generalizing position with
  | nil => rfl
  | cons c rest ih => rw [afterRun_cons, ih, offset_after, byteLength_cons, Nat.add_assoc]

theorem line_afterRun (position : Position) (run : List Char) :
    (position.afterRun run).line = position.line + run.count '\n' := by
  induction run generalizing position with
  | nil => rfl
  | cons c rest ih =>
    rw [afterRun_cons, ih, List.count_cons]
    by_cases newline : c = '\n'
    · simp only [after, newline, if_pos, BEq.rfl]
      omega
    · simp [after, newline]

-- Inside a line the column counts the runes, and going back over them subtracts exactly those.
theorem afterRun_inline (position : Position) {run : List Char} (inline : '\n' ∉ run) :
    position.afterRun run =
      ⟨position.offset + byteLength run, position.line, position.column + run.length⟩ := by
  induction run generalizing position with
  | nil => rfl
  | cons c rest ih =>
    obtain ⟨visible, others⟩ : '\n' ≠ c ∧ '\n' ∉ rest := by simpa using inline
    have stepped : position.after c =
        ⟨position.offset + c.utf8Size, position.line, position.column + 1⟩ :=
      if_neg (Ne.symm visible)
    rw [afterRun_cons, ih _ others, stepped]
    simp only [byteLength_cons, List.length_cons, Position.mk.injEq, true_and]
    constructor <;> omega

theorem column_afterRun_lines {lines : List Char}
    (ends : lines = [] ∨ ∃ first, lines = first ++ ['\n']) :
    (start.afterRun lines).column = 1 := by
  rcases ends with rfl | ⟨first, rfl⟩
  · rfl
  · rw [afterRun_append]
    rfl

theorem column_pos (run : List Char) : 0 < (start.afterRun run).column := by
  have grows : ∀ position : Position, 0 < position.column →
      0 < (position.afterRun run).column := by
    induction run with
    | nil => exact fun _ positive => positive
    | cons c rest ih =>
      intro position positive
      apply ih
      unfold after
      split
      · exact Nat.one_pos
      · exact Nat.succ_pos _
  exact grows start Nat.one_pos

end Position

theorem lines_then_part (run : List Char) :
    ∃ lines part, run = lines ++ part ∧ '\n' ∉ part ∧
      (lines = [] ∨ ∃ first, lines = first ++ ['\n']) := by
  induction run with
  | nil => exact ⟨[], [], rfl, by simp, .inl rfl⟩
  | cons c rest ih =>
    obtain ⟨lines, part, splits, inline, ends⟩ := ih
    rcases ends with rfl | ⟨first, rfl⟩
    · by_cases newline : c = '\n'
      · exact ⟨['\n'], part, by simp [splits, newline], inline, .inr ⟨[], rfl⟩⟩
      · refine ⟨[], c :: part, by simp [splits], ?_, .inl rfl⟩
        simpa [inline] using fun same => newline same.symm
    · exact ⟨c :: first ++ ['\n'], part, by simp [splits], inline, .inr ⟨c :: first, rfl⟩⟩

-- One row of a joined text, the rows before it with a newline behind each, and those behind it with
-- a newline before each.
theorem intercalate_middle (before after : List (List Char)) (row : List Char) :
    ['\n'].intercalate (before ++ row :: after) =
      before.flatMap (· ++ ['\n']) ++ row ++ after.flatMap ('\n' :: ·) := by
  induction before with
  | nil =>
    induction after generalizing row with
    | nil => simp
    | cons next others ih =>
      have behind := ih next
      rw [List.nil_append] at behind ⊢
      rw [List.intercalate_cons_cons, behind]
      simp
  | cons first others ih =>
    rw [List.cons_append, List.intercalate_cons_of_ne_nil (by simp), ih]
    simp

theorem startsAfter_append (base : Nat) (left right : List Char) :
    startsAfter base (left ++ right) =
      startsAfter base left ++ startsAfter (base + byteLength left) right := by
  induction left generalizing base with
  | nil => simp [startsAfter]
  | cons c rest ih =>
    rw [List.cons_append, startsAfter, startsAfter, ih, byteLength_cons, ← Nat.add_assoc]
    split <;> rfl

theorem length_startsAfter (base : Nat) (text : List Char) :
    (startsAfter base text).length = text.count '\n' := by
  induction text generalizing base with
  | nil => rfl
  | cons c rest ih =>
    rw [startsAfter, List.count_cons]
    by_cases newline : c = '\n' <;> simp [newline, ih]

theorem base_lt_of_mem_startsAfter {base start : Nat} {text : List Char}
    (member : start ∈ startsAfter base text) : base < start := by
  induction text generalizing base with
  | nil => cases member
  | cons c rest ih =>
    have wide := c.utf8Size_pos
    have later : start ∈ startsAfter (base + c.utf8Size) rest → base < start := by
      intro found
      have := ih found
      omega
    rw [startsAfter] at member
    split at member
    · cases List.mem_cons.mp member with
      | inl same => omega
      | inr found => exact later found
    · exact later member

theorem le_of_mem_startsAfter {base start : Nat} {text : List Char}
    (member : start ∈ startsAfter base text) : start ≤ base + byteLength text := by
  induction text generalizing base with
  | nil => cases member
  | cons c rest ih =>
    rw [byteLength_cons, ← Nat.add_assoc]
    rw [startsAfter] at member
    split at member
    · cases List.mem_cons.mp member with
      | inl same => omega
      | inr found => exact ih found
    · exact ih member

theorem takeWhile_startsAfter (base : Nat) (before after : List Char) :
    (startsAfter base (before ++ after)).takeWhile (· ≤ base + byteLength before) =
      startsAfter base before := by
  rw [startsAfter_append, List.takeWhile_append_of_pos]
  · have beyond : (startsAfter (base + byteLength before) after).takeWhile
        (· ≤ base + byteLength before) = [] := by
      cases starts : startsAfter (base + byteLength before) after with
      | nil => rfl
      | cons start others =>
        have further := base_lt_of_mem_startsAfter (starts ▸ List.mem_cons_self)
        simp only [List.takeWhile_cons, decide_eq_true_eq]
        rw [if_neg (by omega)]
    rw [beyond, List.append_nil]
  · intro start member
    simpa using le_of_mem_startsAfter member

namespace Source

def lineCount (source : Source) : Nat := 1 + source.text.count '\n'

theorem length_lineStarts (source : Source) :
    (lineStarts source.text).length = source.lineCount := by
  rw [lineStarts, List.length_cons, length_startsAfter, lineCount, Nat.add_comm]

theorem isSome_lineStart? (source : Source) (line : Nat) :
    (source.lineStart? line).isSome ↔ 1 ≤ line ∧ line ≤ source.lineCount := by
  unfold lineStart?
  split
  · next zero => simp [zero]
  · next counted =>
    rw [isSome_getElem?, length_lineStarts]
    omega

theorem lineStart?_beyond {source : Source} {line : Nat} (beyond : source.lineCount < line) :
    source.lineStart? line = none := by
  rw [← Option.not_isSome_iff_eq_none, isSome_lineStart?]
  omega

theorem lineOf_le_lineCount (source : Source) (offset : Nat) :
    source.lineOf offset ≤ source.lineCount := by
  rw [← length_lineStarts]
  exact (List.takeWhile_prefix _).length_le

theorem lineCount_le (source : Source) : source.lineCount ≤ source.bytes + 1 := by
  have newlines := List.count_le_length (a := '\n') (l := source.text)
  have wide := length_le_byteLength source.text
  rw [lineCount, bytes]
  omega

theorem lineOf_boundary (name : String) (before after : List Char) :
    lineOf ⟨name, before ++ after⟩ (byteLength before) = before.count '\n' + 1 := by
  have starts := takeWhile_startsAfter 0 before after
  simp only [Nat.zero_add] at starts
  simp [lineOf, lineStarts, starts, length_startsAfter]

theorem lineStart_boundary (name : String) {lines part : List Char} (after : List Char)
    (inline : '\n' ∉ part) (ends : lines = [] ∨ ∃ first, lines = first ++ ['\n']) :
    lineStart? ⟨name, lines ++ part ++ after⟩ ((lines ++ part).count '\n' + 1) =
      some (byteLength lines) := by
  have counted : (lines ++ part).count '\n' = lines.count '\n' := by
    simp [List.count_eq_zero.mpr inline]
  rw [counted]
  simp only [lineStart?, lineStarts, Nat.add_sub_cancel]
  rw [if_neg (Nat.succ_ne_zero _)]
  rcases ends with rfl | ⟨first, rfl⟩
  · rfl
  · have starts : startsAfter 0 (first ++ ['\n'] ++ part ++ after) =
        startsAfter 0 first ++ byteLength (first ++ ['\n']) ::
          startsAfter (byteLength (first ++ ['\n'])) (part ++ after) := by
      rw [List.append_assoc, startsAfter_append, startsAfter_append]
      simp [startsAfter]
    have index : (first ++ ['\n']).count '\n' = (startsAfter 0 first).length + 1 := by
      simp [length_startsAfter]
    rw [starts, index, List.getElem?_cons_succ, List.getElem?_append_right (Nat.le_refl _)]
    simp

theorem positionAt_boundary (name : String) (before after : List Char) :
    positionAt ⟨name, before ++ after⟩ (byteLength before) = Position.start.afterRun before := by
  obtain ⟨lines, part, rfl, inline, ends⟩ := lines_then_part before
  have column := Position.column_afterRun_lines ends
  have between : between? (byteLength lines) (byteLength (lines ++ part))
      (lines ++ part ++ after) = some part := by
    rw [byteLength_append]
    exact between?_append lines part after
  have counted : columnBetween (lines ++ part ++ after) (byteLength lines)
      (byteLength (lines ++ part)) = part.length + 1 := by
    have within : min (byteLength (lines ++ part)) (byteLength (lines ++ part ++ after)) =
        byteLength (lines ++ part) := by
      rw [byteLength_append (lines ++ part)]
      omega
    rw [columnBetween, within, between]
    rfl
  have line := Position.line_afterRun Position.start lines
  rw [Position.afterRun_append, Position.afterRun_inline _ inline, column]
  simp only [positionAt, lineOf_boundary, lineStart_boundary name after inline ends,
    Option.getD_some, counted, Position.mk.injEq]
  refine ⟨?_, ?_, Nat.add_comm _ _⟩
  · rw [Position.offset_afterRun, byteLength_append]
    exact (Nat.zero_add _).symm ▸ rfl
  · rw [line, List.count_append, List.count_eq_zero.mpr inline]
    exact Nat.add_comm _ _

theorem IsBoundary.le_bytes {source : Source} {offset : Nat} (boundary : source.IsBoundary offset) :
    offset ≤ source.bytes := by
  obtain ⟨before, after, splits, rfl⟩ := boundary
  rw [bytes, splits, byteLength_append]
  exact Nat.le_add_right _ _

theorem positionAt_eq_afterRun {source : Source} {before after : List Char}
    (splits : source.text = before ++ after) :
    source.positionAt (byteLength before) = Position.start.afterRun before := by
  obtain ⟨name, text⟩ := source
  cases splits
  exact positionAt_boundary name before after

-- The lines before a boundary and the part of its own line before it tell its position.
theorem positionAt_of_lines {source : Source} {lines part after : List Char}
    (splits : source.text = lines ++ part ++ after) (inline : '\n' ∉ part)
    (ends : lines = [] ∨ ∃ first, lines = first ++ ['\n']) :
    source.positionAt (byteLength (lines ++ part)) =
      ⟨byteLength (lines ++ part), lines.count '\n' + 1, part.length + 1⟩ := by
  have column := Position.column_afterRun_lines ends
  have line := Position.line_afterRun Position.start lines
  have offset := Position.offset_afterRun Position.start lines
  rw [positionAt_eq_afterRun splits, Position.afterRun_append, Position.afterRun_inline _ inline,
    column, line, offset, byteLength_append]
  simp only [Position.start, Nat.zero_add, Nat.add_comm]

end Source
end TemplateCompiler
