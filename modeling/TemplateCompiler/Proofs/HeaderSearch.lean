import TemplateCompiler.Proofs.BlockHeads
import TemplateCompiler.Proofs.Guarded.Reads
import TemplateCompiler.Proofs.QuotedSpans

namespace TemplateCompiler
namespace Code

-- Depth after one rune of code. Without an open bracket a closing one changes nothing.
def bracketed (depth : Nat) (c : Char) : Nat :=
  if c = '(' ∨ c = '[' ∨ c = '{' then depth + 1
  else if c = ')' ∨ c = ']' ∨ c = '}' then depth - 1
  else depth

def bracketDepth (code : List Char) : Nat := code.foldl bracketed 0

structure OpensBody (marker : Char) (text : List Char) (index : Nat) : Prop where
  brace : text[index]? = some '{'
  marked : text[index + 1]? = some marker
  outside : ∃ code, Whole (text.take index) code ∧ bracketDepth code = 0

structure FirstOpening (marker : Char) (text : List Char) (index : Nat) : Prop where
  opens : OpensBody marker text index
  first : ∀ earlier < index, ¬ OpensBody marker text earlier

def MarkerAt (marker : Char) (text : List Char) (index : Nat) : Prop :=
  text[index]? = some marker ∧ ∃ code, Whole (text.take index) code

def Barred (marker : Char) (text : List Char) (index : Nat) : Prop :=
  ∃ earlier ≤ index, MarkerAt marker text earlier

section Nesting
variable {marker : Char} {nesting : Nesting} {text : List Char}

theorem feed_eq (nesting : Nesting) (c : Char) : nesting.feed c =
    ⟨if nesting.quoting.isStructural c then bracketed nesting.depth c else nesting.depth,
      nesting.quoting.feed c⟩ := by
  unfold Nesting.feed bracketed
  split <;> (try split) <;> (try split) <;> rfl

theorem depth_afterRun (nesting : Nesting) (run : List Char) :
    (nesting.afterRun run).depth =
      (structural nesting.quoting run).foldl bracketed nesting.depth := by
  induction run generalizing nesting with
  | nil => rfl
  | cons c rest ih =>
    rw [Nesting.afterRun_cons, ih, feed_eq, structural]
    split <;> rfl

theorem isPlain_iff_whole (run : List Char) :
    (Nesting.start.afterRun run).quoting = .plain ↔ ∃ code, Whole run code := by
  simp [quoting_afterRun, whole_iff, Nesting.start]

theorem isTop_iff_whole (run : List Char) :
    (Nesting.start.afterRun run).isTop ↔ ∃ code, Whole run code ∧ bracketDepth code = 0 := by
  simp only [Nesting.isTop, decide_eq_true_eq, depth_afterRun, quoting_afterRun, whole_iff,
    bracketDepth, Nesting.start]
  constructor
  · rintro ⟨level, plain⟩
    exact ⟨_, ⟨plain, rfl⟩, level⟩
  · rintro ⟨code, ⟨plain, rfl⟩, level⟩
    exact ⟨level, plain⟩

-- Where a body opens, as a search sees it that has reached `nesting` on the text behind it.
def OpensFrom (marker : Char) (nesting : Nesting) (text : List Char) (index : Nat) : Prop :=
  text[index]? = some '{' ∧ text[index + 1]? = some marker ∧
    (nesting.afterRun (text.take index)).isTop

def MarkedFrom (marker : Char) (nesting : Nesting) (text : List Char) (index : Nat) : Prop :=
  text[index]? = some marker ∧ (nesting.afterRun (text.take index)).quoting = .plain

structure EndsHeader (marker : Char) (nesting : Nesting) (text : List Char) (index : Nat) :
    Prop where
  opens : OpensFrom marker nesting text index
  first : ∀ earlier < index, ¬ OpensFrom marker nesting text earlier
  unmarked : ∀ earlier ≤ index, ¬ MarkedFrom marker nesting text earlier

theorem opensFrom_cons {c : Char} {index : Nat} :
    OpensFrom marker nesting (c :: text) (index + 1) ↔
      OpensFrom marker (nesting.feed c) text index := by
  simp [OpensFrom]

theorem markedFrom_cons {c : Char} {index : Nat} :
    MarkedFrom marker nesting (c :: text) (index + 1) ↔
      MarkedFrom marker (nesting.feed c) text index := by
  simp [MarkedFrom]

theorem opensFrom_zero {c : Char} : OpensFrom marker nesting (c :: text) 0 ↔
    c = '{' ∧ nesting.isTop ∧ text.head? = some marker := by
  simp [OpensFrom, Nesting.afterRun, List.head?_eq_getElem?, and_comm]

theorem markedFrom_zero {c : Char} : MarkedFrom marker nesting (c :: text) 0 ↔
    c = marker ∧ nesting.quoting.isPlain := by
  simp [MarkedFrom, Nesting.afterRun, Quoting.isPlain]

theorem EndsHeader.head {c : Char} (opens : OpensFrom marker nesting (c :: text) 0)
    (unmarked : ¬ MarkedFrom marker nesting (c :: text) 0) :
    EndsHeader marker nesting (c :: text) 0 := by
  refine ⟨opens, by simp, ?_⟩
  intro earlier early
  rwa [Nat.le_zero.mp early]

theorem endsHeader_cons {c : Char} {index : Nat} (closed : ¬ OpensFrom marker nesting (c :: text) 0)
    (unmarked : ¬ MarkedFrom marker nesting (c :: text) 0) :
    EndsHeader marker nesting (c :: text) (index + 1) ↔
      EndsHeader marker (nesting.feed c) text index := by
  constructor
  · rintro ⟨opens, first, clear⟩
    refine ⟨opensFrom_cons.mp opens, ?_, ?_⟩
    · intro earlier early here
      exact first (earlier + 1) (by omega) (opensFrom_cons.mpr here)
    · intro earlier early here
      exact clear (earlier + 1) (by omega) (markedFrom_cons.mpr here)
  · rintro ⟨opens, first, clear⟩
    refine ⟨opensFrom_cons.mpr opens, ?_, ?_⟩
    · intro earlier early here
      cases earlier with
      | zero => exact closed here
      | succ earlier => exact first earlier (by omega) (opensFrom_cons.mp here)
    · intro earlier early here
      cases earlier with
      | zero => exact unmarked here
      | succ earlier => exact clear earlier (by omega) (markedFrom_cons.mp here)

-- By induction on the text ahead, with the depth and the quoting reached so far.
theorem headerFrom?_eq_some_iff {header : List Char} :
    headerFrom? marker nesting text = some header ↔
      ∃ index, EndsHeader marker nesting text index ∧ header = text.take index := by
  induction text generalizing nesting header with
  | nil =>
    constructor
    · nofun
    · rintro ⟨index, ⟨⟨nothing, _⟩, _⟩, _⟩
      simp at nothing
  | cons c rest ih =>
    rw [headerFrom?]
    by_cases marked : MarkedFrom marker nesting (c :: rest) 0
    · rw [if_pos (markedFrom_zero.mp marked)]
      constructor
      · nofun
      · rintro ⟨index, ends, _⟩
        exact absurd marked (ends.unmarked 0 (Nat.zero_le index))
    rw [if_neg (mt markedFrom_zero.mpr marked)]
    by_cases opens : OpensFrom marker nesting (c :: rest) 0
    · rw [if_pos (opensFrom_zero.mp opens)]
      constructor
      · intro same
        cases same
        exact ⟨0, .head opens marked, rfl⟩
      · rintro ⟨index, ends, rfl⟩
        cases index with
        | zero => rfl
        | succ index => exact absurd opens (ends.first 0 (by omega))
    rw [if_neg (mt opensFrom_zero.mpr opens), Option.map_eq_some_iff]
    constructor
    · rintro ⟨others, later, rfl⟩
      obtain ⟨index, ends, rfl⟩ := ih.mp later
      exact ⟨index + 1, (endsHeader_cons opens marked).mpr ends, rfl⟩
    · rintro ⟨index, ends, rfl⟩
      cases index with
      | zero => exact absurd ends.opens opens
      | succ index =>
        exact ⟨_, ih.mpr ⟨index, (endsHeader_cons opens marked).mp ends, rfl⟩, rfl⟩

theorem opensBody_iff {index : Nat} :
    OpensBody marker text index ↔ OpensFrom marker .start text index := by
  rw [OpensFrom, isTop_iff_whole]
  constructor
  · rintro ⟨brace, marked, outside⟩
    exact ⟨brace, marked, outside⟩
  · rintro ⟨brace, marked, outside⟩
    exact ⟨brace, marked, outside⟩

theorem markerAt_iff {index : Nat} :
    MarkerAt marker text index ↔ MarkedFrom marker .start text index := by
  rw [MarkerAt, MarkedFrom, isPlain_iff_whole]

theorem endsHeader_iff {index : Nat} : EndsHeader marker .start text index ↔
    FirstOpening marker text index ∧ ¬ Barred marker text index := by
  simp only [Barred, markerAt_iff, not_exists, not_and]
  constructor
  · rintro ⟨opens, first, unmarked⟩
    exact ⟨⟨opensBody_iff.mpr opens, fun earlier early => mt opensBody_iff.mp (first earlier early)⟩,
      unmarked⟩
  · rintro ⟨⟨opens, first⟩, unmarked⟩
    exact ⟨opensBody_iff.mp opens, fun earlier early => mt opensBody_iff.mpr (first earlier early),
      unmarked⟩

theorem header?_eq_some_iff {header : List Char} : header? marker text = some header ↔
    ∃ index, FirstOpening marker text index ∧ ¬ Barred marker text index ∧
      header = text.take index := by
  simp only [header?, headerFrom?_eq_some_iff, endsHeader_iff, and_assoc]

theorem not_whole_of_unbarred {index : Nat} (opens : OpensBody marker text index)
    (clear : ¬ Barred marker text index) {before after : List Char}
    (splits : text.take index ++ ['{'] = before ++ marker :: after) :
    ∀ code, ¬ Whole before code := by
  intro code whole
  have upTo : text.take (index + 1) = before ++ marker :: after := by
    rw [List.take_add_one, opens.brace]
    exact splits
  have early : before.length < (text.take (index + 1)).length := by simp [upTo]
  rw [List.length_take] at early
  have here : text[before.length]? = some marker := by
    rw [← List.getElem?_take_of_lt (by omega : before.length < index + 1), upTo]
    simp
  have behind : text.take before.length = before := by
    rw [← Nat.min_eq_left (by omega : before.length ≤ index + 1), ← List.take_take, upTo]
    simp
  exact clear ⟨before.length, by omega, here, code, behind.symm ▸ whole⟩

end Nesting
end Code

namespace Cursor
open Text Code

-- A header up to an index is found: its text and its place are those of the runes before the index,
-- and the brace and the marker are passed. The guarded search moves by bytes to the same place.
structure FindsHeader (marker : Char) (cursor : Cursor) (header : List Char) (found : Read Slice) :
    Prop where
  tried : cursor.tryBlockHeader? marker = some found
  read : cursor.readBlockHeader marker = .ok found
  slice : found.value = ⟨cursor.name, String.ofList header, cursor.position,
    cursor.position.afterRun header⟩
  passes : cursor.Passes (header ++ ['{', marker]) (cursor.after found)
  unmarked : ∀ before after, header ++ ['{'] = before ++ marker :: after →
    ∀ code, ¬ Whole before code
  guarded : ∀ source, Guarded.Ready source cursor →
    Guarded.tryBlockHeader? marker cursor = .ok (some found.value, cursor.after found)

structure MissesHeader (marker : Char) (cursor : Cursor) : Prop where
  tried : cursor.tryBlockHeader? marker = none
  read : cursor.readBlockHeader marker =
    .error (cursor.errorHere .noBlockOpen s!"expected `\x7b{marker}` to open the block body")
  guarded : ∀ source, Guarded.Ready source cursor →
    Guarded.tryBlockHeader? marker cursor = .ok (none, cursor)

theorem findsHeader_of_first {marker : Char} {cursor : Cursor} {index : Nat}
    (first : FirstOpening marker cursor.rest index) (clear : ¬ Barred marker cursor.rest index) :
    ∃ found, FindsHeader marker cursor (cursor.rest.take index) found := by
  have opens : header? marker cursor.rest = some (cursor.rest.take index) :=
    header?_eq_some_iff.mpr ⟨index, first, clear, rfl⟩
  have unmarked : ∀ before after, cursor.rest.take index ++ ['{'] = before ++ marker :: after →
      ∀ code, ¬ Whole before code :=
    fun before after splits => not_whole_of_unbarred first.opens clear splits
  obtain ⟨inner, splits⟩ := header?_split opens
  have tried : cursor.tryBlockHeader? marker = some
      ⟨cursor.ahead (cursor.rest.take index).length, (cursor.rest.take index).length + 2⟩ := by
    rw [tryBlockHeader?, opens]
    rfl
  generalize cursor.rest.take index = header at *
  have taken : cursor.rest.take header.length = header := by rw [splits, List.take_left]
  refine ⟨_, tried, by rw [readBlockHeader, tried], ?_, ?_, unmarked, ?_⟩
  · simp only [ahead, spanTo, skip, taken]
  · have whole : cursor.rest = (header ++ ['{', marker]) ++ inner := by simpa using splits
    simpa [after] using passes_skip whole
  · intro source ready
    have done := Guarded.does_tryBlockHeader? ready marker
    rw [tried] at done
    exact done

theorem missesHeader_of_headless {marker : Char} {cursor : Cursor}
    (headless : header? marker cursor.rest = none) : MissesHeader marker cursor := by
  have tried : cursor.tryBlockHeader? marker = none := by
    rw [tryBlockHeader?, headless]
    rfl
  refine ⟨tried, by rw [readBlockHeader, tried], ?_⟩
  intro source ready
  have done := Guarded.does_tryBlockHeader? ready marker
  rw [tried] at done
  simpa [Guarded.Does, Guarded.orNone, after] using done

theorem header_of_first_opening (marker : Char) (cursor : Cursor) :
    (∀ index, FirstOpening marker cursor.rest index → ¬ Barred marker cursor.rest index →
      ∃ found, FindsHeader marker cursor (cursor.rest.take index) found) ∧
    ((∀ index, FirstOpening marker cursor.rest index → Barred marker cursor.rest index) →
      MissesHeader marker cursor) := by
  constructor
  · intro index first clear
    exact findsHeader_of_first first clear
  · intro barred
    apply missesHeader_of_headless
    apply Option.eq_none_iff_forall_ne_some.mpr
    intro header opens
    obtain ⟨index, first, clear, _⟩ := header?_eq_some_iff.mp opens
    exact clear (barred index first)

-- A brace with the marker inside a quoted argument opens no body and bars nothing.
theorem header_behind_quotes :
    ∃ cursor index found, cursor.rest =
        ['f', '(', '"', '{', '◊', '"', ')', ' ', '{', '◊', 'x', '◊', '}'] ∧
      FirstOpening '◊' cursor.rest index ∧ ¬ Barred '◊' cursor.rest index ∧
      FindsHeader '◊' cursor ['f', '(', '"', '{', '◊', '"', ')', ' '] found := by
  let cursor : Cursor := ⟨"page", [],
    ['f', '(', '"', '{', '◊', '"', ')', ' ', '{', '◊', 'x', '◊', '}'], .start⟩
  have opens : header? '◊' cursor.rest = some ['f', '(', '"', '{', '◊', '"', ')', ' '] := rfl
  obtain ⟨index, first, clear, same⟩ := header?_eq_some_iff.mp opens
  obtain ⟨found, finds⟩ := (header_of_first_opening '◊' cursor).1 index first clear
  exact ⟨cursor, index, found, rfl, first, clear, same ▸ finds⟩

end Cursor
end TemplateCompiler
