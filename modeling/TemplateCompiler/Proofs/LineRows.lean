import Mathlib.Order.Bounds.Defs
import TemplateCompiler.Proofs.Carets
import TemplateCompiler.Proofs.LinePlaces

namespace TemplateCompiler
open Text

theorem newline_not_mem_splitOn {text row : List Char} (member : row ∈ text.splitOn '\n') :
    '\n' ∉ row := by
  induction text generalizing row with
  | nil =>
    cases List.mem_singleton.mp member
    exact List.not_mem_nil
  | cons c rest ih =>
    rw [List.splitOn_cons_eq_if_modifyHead] at member
    split at member
    · rcases List.mem_cons.mp member with rfl | later
      · exact List.not_mem_nil
      · exact ih later
    · next visible =>
      obtain ⟨first, others, rows⟩ := List.exists_cons_of_ne_nil (List.splitOn_ne_nil '\n' rest)
      rw [rows] at member ih
      rcases List.mem_cons.mp member with rfl | later
      · have inline := ih List.mem_cons_self
        simpa [inline] using fun same => visible (beq_iff_eq.mpr same.symm)
      · exact ih (List.mem_cons_of_mem _ later)

theorem length_splitOn (text : List Char) : (text.splitOn '\n').length = text.count '\n' + 1 := by
  induction text with
  | nil => rfl
  | cons c rest ih =>
    rw [List.splitOn_cons_eq_if_modifyHead, List.count_cons]
    split
    · rw [List.length_cons, ih]
    · rw [List.length_modifyHead, ih, Nat.add_zero]

theorem rows_end (rows : List (List Char)) :
    rows.flatMap (· ++ ['\n']) = [] ∨ ∃ first, rows.flatMap (· ++ ['\n']) = first ++ ['\n'] := by
  rcases List.eq_nil_or_concat rows with rfl | ⟨others, row, rfl⟩
  · exact .inl rfl
  · exact .inr ⟨others.flatMap (· ++ ['\n']) ++ row, by simp⟩

theorem rows_begin (rows : List (List Char)) :
    rows.flatMap ('\n' :: ·) = [] ∨ ∃ further, rows.flatMap ('\n' :: ·) = '\n' :: further := by
  cases rows with
  | nil => exact .inl rfl
  | cons row others => exact .inr ⟨_, rfl⟩

theorem count_rows {rows : List (List Char)} (inline : ∀ row ∈ rows, '\n' ∉ row) :
    (rows.flatMap (· ++ ['\n'])).count '\n' = rows.length := by
  induction rows with
  | nil => rfl
  | cons row others ih =>
    have alone := List.count_eq_zero.mpr (inline row List.mem_cons_self)
    have later := ih fun other member => inline other (List.mem_cons_of_mem _ member)
    rw [List.flatMap_cons, List.count_append, List.count_append, alone, later, List.length_cons,
      List.count_singleton_self, Nat.zero_add, Nat.add_comm]

theorem byteLength_rows_concat (rows : List (List Char)) (row : List Char) :
    byteLength ((rows ++ [row]).flatMap (· ++ ['\n'])) =
      byteLength (rows.flatMap (· ++ ['\n'])) + byteLength row + 1 := by
  rw [List.flatMap_append, byteLength_append, List.flatMap_singleton, byteLength_append,
    ← Nat.add_assoc]
  rfl

theorem le_iff_lt_length_takeWhile {items : List Nat} (sorted : items.Pairwise (· < ·))
    {index item : Nat} (found : items[index]? = some item) (bound : Nat) :
    item ≤ bound ↔ index < (items.takeWhile (· ≤ bound)).length := by
  induction items generalizing index with
  | nil => cases found
  | cons first others ih =>
    obtain ⟨least, later⟩ := List.pairwise_cons.mp sorted
    by_cases low : first ≤ bound
    · rw [List.takeWhile_cons, if_pos (decide_eq_true low), List.length_cons]
      cases index with
      | zero =>
        cases Option.some.inj found
        exact iff_of_true low (Nat.succ_pos _)
      | succ before => rw [ih later found, Nat.add_lt_add_iff_right]
    · rw [List.takeWhile_cons, if_neg (by simpa using low), List.length_nil]
      have higher : first ≤ item := by
        cases index with
        | zero => exact Nat.le_of_eq (Option.some.inj found)
        | succ before => exact Nat.le_of_lt (least item (List.mem_of_getElem? found))
      exact iff_of_false (by omega) (Nat.not_lt_zero _)

namespace Source

def rows (source : Source) : List (List Char) := source.text.splitOn '\n'

theorem length_rows (source : Source) : source.rows.length = source.lineCount := by
  rw [rows, length_splitOn, lineCount, Nat.add_comm]

-- A row is the line behind as many lines as there are rows before it. It starts behind their bytes.
theorem line_of_rows {source : Source} {before after : List (List Char)} {row : List Char}
    (parts : source.rows = before ++ row :: after) :
    source.lineStart? (before.length + 1) = some (byteLength (before.flatMap (· ++ ['\n']))) ∧
      source.lineText? (before.length + 1) = some row := by
  have inline : ∀ other ∈ before ++ row :: after, '\n' ∉ other := by
    intro other member
    rw [← parts] at member
    exact newline_not_mem_splitOn member
  have clean : '\n' ∉ row := inline row (by simp)
  have joined : source.text = before.flatMap (· ++ ['\n']) ++ row ++ after.flatMap ('\n' :: ·) := by
    rw [← intercalate_middle, ← parts]
    exact (List.intercalate_splitOn '\n').symm
  have counted := count_rows fun other member => inline other (List.mem_append_left _ member)
  have starts := lineStart_boundary source.name (after.flatMap ('\n' :: ·)) clean (rows_end before)
  have text := lineText?_of_split source.name (rows_end before) clean (rows_begin after)
  rw [← joined, List.count_append, counted, List.count_eq_zero.mpr clean] at starts
  rw [← joined, counted] at text
  exact ⟨starts, text⟩

theorem lineText?_eq (source : Source) (line : Nat) :
    source.lineText? line = if line = 0 then none else source.rows[line - 1]? := by
  cases line with
  | zero => rfl
  | succ index =>
    rw [if_neg (Nat.succ_ne_zero index), Nat.add_sub_cancel]
    rcases Nat.lt_or_ge index source.rows.length with within | beyond
    · have parts := List.take_append_drop index source.rows
      rw [List.drop_eq_getElem_cons within] at parts
      have shown := (line_of_rows parts.symm).2
      rwa [List.length_take_of_le (Nat.le_of_lt within), ← List.getElem?_eq_getElem within] at shown
    · have beyondTable : source.lineStart? (index + 1) = none := by
        apply lineStart?_beyond
        rw [← length_rows]
        omega
      rw [lineText?, beyondTable, List.getElem?_eq_none beyond]

theorem isSome_lineText? (source : Source) (line : Nat) :
    (source.lineText? line).isSome ↔ 1 ≤ line ∧ line ≤ source.lineCount := by
  rw [lineText?_eq]
  split
  · next zero => simp [zero]
  · next counted =>
    rw [isSome_getElem?, length_rows]
    omega

theorem map_lineText? (source : Source) :
    (List.range' 1 source.lineCount).map source.lineText? = source.rows.map some := by
  apply List.ext_getElem?
  intro index
  rw [← length_rows, List.getElem?_map, List.getElem?_map]
  rcases Nat.lt_or_ge index source.rows.length with within | beyond
  · rw [List.getElem?_range' within, Option.map_some, lineText?_eq, if_neg (by omega), Nat.one_mul,
      Nat.add_sub_cancel_left, List.getElem?_eq_getElem within, Option.map_some]
  · rw [List.getElem?_eq_none beyond, List.getElem?_eq_none (by rwa [List.length_range']),
      Option.map_none, Option.map_none]

theorem lineStart?_succ {source : Source} {line : Nat} (counted : 1 ≤ line)
    (further : line < source.lineCount) :
    ∃ start text, source.lineStart? line = some start ∧ source.lineText? line = some text ∧
      source.lineStart? (line + 1) = some (start + byteLength text + 1) := by
  obtain ⟨index, rfl⟩ := Nat.exists_eq_add_of_le' counted
  rw [← length_rows] at further
  have parts := List.take_append_drop index source.rows
  have length := List.length_take_of_le (show index ≤ source.rows.length by omega)
  rw [List.drop_eq_getElem_cons (by omega), List.drop_eq_getElem_cons further] at parts
  obtain ⟨starts, text⟩ := line_of_rows parts.symm
  rw [← List.singleton_append, ← List.append_assoc] at parts
  have next := (line_of_rows parts.symm).1
  rw [length] at starts text
  rw [byteLength_rows_concat, List.length_append, length] at next
  exact ⟨_, _, starts, text, next⟩

theorem le_iff_le_lineOf {source : Source} {line start : Nat}
    (starts : source.lineStart? line = some start) (offset : Nat) :
    start ≤ offset ↔ line ≤ source.lineOf offset := by
  unfold lineStart? at starts
  split at starts
  · cases starts
  · next counted =>
    rw [le_iff_lt_length_takeWhile (pairwise_lineStarts source.text) starts, lineOf]
    omega

def startedBy (source : Source) (offset : Nat) : Set Nat :=
  {line | line ≤ source.lineCount ∧ ∃ start, source.lineStart? line = some start ∧ start ≤ offset}

theorem isGreatest_lineOf (source : Source) (offset : Nat) :
    IsGreatest (source.startedBy offset) (source.lineOf offset) := by
  constructor
  · have within := source.lineOf_le_lineCount offset
    have counted : 1 ≤ source.lineOf offset :=
      (le_iff_le_lineOf (rfl : source.lineStart? 1 = some 0) offset).mp (Nat.zero_le _)
    have found := (source.isSome_lineStart? _).mpr ⟨counted, within⟩
    obtain ⟨start, starts⟩ := Option.isSome_iff_exists.mp found
    exact ⟨within, start, starts, (le_iff_le_lineOf starts offset).mpr (Nat.le_refl _)⟩
  · rintro line ⟨_, start, starts, low⟩
    exact (le_iff_le_lineOf starts offset).mp low

def entry? (source : Source) (line : UInt32) : Option Nat :=
  if line = 0 then none else (byteTable source.text)[(line - 1).toNat]?

-- The following entry is behind the newline that ends the line.
def entryText? (source : Source) (line : UInt32) : Option (List Char) :=
  match source.entry? line with
  | none => none
  | some start =>
    let stop := match source.entry? (line + 1) with
      | some next => next - 1
      | none => source.bytes
    between? start stop source.text

theorem entry?_eq (source : Source) (line : UInt32) :
    source.entry? line = source.lineStart? line.toNat := by
  unfold entry? lineStart?
  rw [byteTable_eq]
  by_cases zero : line = 0
  · subst zero
    rfl
  · have counted : line.toNat ≠ 0 := fun same => zero (UInt32.toNat_inj.mp same)
    have one : (1 : UInt32) ≤ line :=
      UInt32.le_iff_toNat_le.mpr (Nat.one_le_iff_ne_zero.mpr counted)
    rw [if_neg zero, if_neg counted, UInt32.toNat_sub_of_le _ _ one]
    rfl

theorem toNat_next {source : Source} (short : source.lineCount < 0xFFFFFFFF) {line : UInt32}
    (present : (source.entry? line).isSome) : (line + 1).toNat = line.toNat + 1 := by
  rw [entry?_eq, isSome_lineStart?] at present
  have one : (1 : UInt32).toNat = 1 := rfl
  rw [UInt32.toNat_add, one, Nat.mod_eq_of_lt (by omega)]

theorem entryText?_eq {source : Source} (short : source.lineCount < 0xFFFFFFFF) (line : UInt32) :
    source.entryText? line = source.lineText? line.toNat := by
  unfold entryText? lineText?
  rw [← entry?_eq source line]
  cases here : source.entry? line with
  | none => rfl
  | some start =>
    have next : source.entry? (line + 1) = source.lineStart? (line.toNat + 1) := by
      rw [entry?_eq, toNat_next short (Option.isSome_of_eq_some here)]
    cases following : source.lineStart? (line.toNat + 1) <;> simp only [next, following]

-- Lines named by 32 bits and found by a binary search in a table of the bytes. Going on to the
-- entry behind one that is there does not overflow.
structure NamesLines (source : Source) : Prop where
  start : ∀ line, source.entry? line = source.lineStart? line.toNat
  next : ∀ line, (source.entry? line).isSome → (line + 1).toNat = line.toNat + 1
  text : ∀ line, source.entryText? line = source.lineText? line.toNat
  halves : ∀ offset, Searched (byteTable source.text) offset (bisect (byteTable source.text) offset)
  found : ∀ offset answer, Searched (byteTable source.text) offset answer →
    (numbered (linesBefore answer)).toNat = source.lineOf offset

theorem namesLines_of_short {source : Source} (short : source.lineCount < 0xFFFFFFFF) :
    source.NamesLines where
  start := source.entry?_eq
  next _ := toNat_next short
  text := entryText?_eq short
  halves := searched_bisect (pairwise_byteTable source.text)
  found _ _ searched := searched.toNat_line (Nat.le_of_lt short)

-- The lines of a source are its text, but for one newline between each two of them.
structure Partitioned (source : Source) : Prop where
  present : ∀ line, (source.lineText? line).isSome ↔ 1 ≤ line ∧ line ≤ source.lineCount
  joined : ∃ rows, (List.range' 1 source.lineCount).map source.lineText? = rows.map some ∧
    (∀ row ∈ rows, '\n' ∉ row) ∧ ['\n'].intercalate rows = source.text
  first : source.lineStart? 1 = some 0
  next : ∀ line, 1 ≤ line → line < source.lineCount → ∃ start text,
    source.lineStart? line = some start ∧ source.lineText? line = some text ∧
      source.lineStart? (line + 1) = some (start + byteLength text + 1)
  last : ∀ offset, IsGreatest (source.startedBy offset) (source.lineOf offset)
  named : source.lineCount < 0xFFFFFFFF → source.NamesLines

theorem lines_partition_text (source : Source) : source.Partitioned where
  present := source.isSome_lineText?
  joined := ⟨source.rows, source.map_lineText?, fun _ => newline_not_mem_splitOn,
    List.intercalate_splitOn '\n'⟩
  first := rfl
  next _ := lineStart?_succ
  last := source.isGreatest_lineOf
  named := namesLines_of_short

example : (List.range 6).map (lineText? ⟨"t", ['β', '\n', '\n', 'c', '\n']⟩) =
    [none, some ['β'], some [], some ['c'], some [], none] := by decide

end Source
end TemplateCompiler
