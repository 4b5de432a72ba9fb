import TemplateCompiler.Proofs.Bisection
import TemplateCompiler.Proofs.LineTable
import TemplateCompiler.Proofs.TextRunBytes

namespace TemplateCompiler
open Text

def startsInBytes (index : Nat) : List UInt8 → List Nat
  | [] => []
  | byte :: rest =>
    if byte = 0xA then (index + 1) :: startsInBytes (index + 1) rest
    else startsInBytes (index + 1) rest

def byteTable (text : List Char) : List Nat := 0 :: startsInBytes 0 (utf8 text)

-- One more than a count, in 32 bits. A count that they do not hold becomes the last but one.
def numbered (count : Nat) : UInt32 :=
  (if count < UInt32.size then UInt32.ofNat count else 0xFFFFFFFE) + 1

def linesBefore : Except Nat Nat → Nat
  | .ok exact => exact
  | .error insert => insert - 1

namespace Source

def searchedPlace (source : Source) (answer : Except Nat Nat) (offset : Nat) : UInt32 × UInt32 :=
  let line := numbered (linesBefore answer)
  let start := if line = 0 then 0 else ((byteTable source.text)[line.toNat - 1]?).getD 0
  let run := (between? start (min offset source.bytes) source.text).getD []
  (line, numbered run.length)

end Source

theorem startsInBytes_append (index : Nat) (left right : List UInt8) :
    startsInBytes index (left ++ right) =
      startsInBytes index left ++ startsInBytes (index + left.length) right := by
  induction left generalizing index with
  | nil => simp [startsInBytes]
  | cons byte rest ih =>
    rw [List.cons_append, startsInBytes, startsInBytes, ih, List.length_cons, Nat.add_assoc,
      Nat.add_comm 1]
    split <;> rfl

theorem startsInBytes_none {index : Nat} {bytes : List UInt8} (other : ∀ byte ∈ bytes, byte ≠ 0xA) :
    startsInBytes index bytes = [] := by
  induction bytes generalizing index with
  | nil => rfl
  | cons byte rest ih =>
    rw [startsInBytes, if_neg (other byte List.mem_cons_self)]
    exact ih fun later member => other later (List.mem_cons_of_mem _ member)

theorem newline_not_mem_utf8EncodeChar {c : Char} (other : c ≠ '\n') :
    ∀ byte ∈ String.utf8EncodeChar c, byte ≠ 0xA := by
  rintro byte member rfl
  rcases utf8EncodeChar_halves c with ⟨narrow, single⟩ | ⟨_, high⟩
  · rw [single, List.mem_singleton] at member
    apply other
    have same := congrArg UInt8.toNat member
    rw [UInt8.toNat_ofNat', Nat.mod_eq_of_lt (by omega)] at same
    exact Char.toNat_inj.mp same.symm
  · exact absurd (high _ member) (by decide)

theorem startsInBytes_utf8 (index : Nat) (text : List Char) :
    startsInBytes index (utf8 text) = startsAfter index text := by
  induction text generalizing index with
  | nil => rfl
  | cons c rest ih =>
    rw [utf8_cons, startsInBytes_append, String.length_utf8EncodeChar, ih, startsAfter]
    by_cases newline : c = '\n'
    · subst newline
      rfl
    · rw [if_neg newline, startsInBytes_none (newline_not_mem_utf8EncodeChar newline)]
      rfl

theorem byteTable_eq (text : List Char) : byteTable text = lineStarts text :=
  congrArg (0 :: ·) (startsInBytes_utf8 0 text)

theorem length_startsInBytes (index : Nat) (bytes : List UInt8) :
    (startsInBytes index bytes).length = bytes.count 0xA := by
  induction bytes generalizing index with
  | nil => rfl
  | cons byte rest ih =>
    rw [startsInBytes, List.count_cons]
    by_cases newline : byte = 0xA <;> simp [newline, ih]

theorem count_utf8 (text : List Char) : (utf8 text).count 0xA = text.count '\n' := by
  rw [← length_startsInBytes 0, startsInBytes_utf8, length_startsAfter]

theorem pairwise_startsAfter (base : Nat) (text : List Char) :
    (startsAfter base text).Pairwise (· < ·) := by
  induction text generalizing base with
  | nil => exact .nil
  | cons c rest ih =>
    rw [startsAfter]
    split
    · exact .cons (fun _ member => base_lt_of_mem_startsAfter member) (ih _)
    · exact ih _

theorem pairwise_lineStarts (text : List Char) : (lineStarts text).Pairwise (· < ·) :=
  .cons (fun _ member => base_lt_of_mem_startsAfter member) (pairwise_startsAfter 0 text)

theorem pairwise_byteTable (text : List Char) : (byteTable text).Pairwise (· < ·) :=
  byteTable_eq text ▸ pairwise_lineStarts text

theorem length_takeWhile_append {left right : List Nat} {holds : Nat → Bool}
    (below : ∀ item ∈ left, holds item) (above : ∀ item ∈ right, ¬ holds item) :
    ((left ++ right).takeWhile holds).length = left.length := by
  rw [List.takeWhile_append_of_pos below, List.length_append, Nat.add_eq_left]
  cases right with
  | nil => rfl
  | cons item others =>
    rw [List.takeWhile_cons_of_neg (above item List.mem_cons_self), List.length_nil]

-- Both answers of a search lead to the last start that is not behind the offset.
theorem Searched.lineOf_eq {source : Source} {offset : Nat} {answer : Except Nat Nat}
    (searched : Searched (byteTable source.text) offset answer) :
    source.lineOf offset = linesBefore answer + 1 := by
  rw [byteTable_eq] at searched
  have sorted := pairwise_lineStarts source.text
  unfold Source.lineOf
  cases searched with
  | @hit index found =>
    obtain ⟨within, same⟩ := List.getElem?_eq_some_iff.mp found
    have splits : lineStarts source.text = ((lineStarts source.text).take index ++ [offset]) ++
        (lineStarts source.text).drop (index + 1) := by
      rw [← same, List.append_assoc, List.singleton_append, ← List.drop_eq_getElem_cons within,
        List.take_append_drop]
    rw [splits] at sorted ⊢
    obtain ⟨before, _, across⟩ := List.pairwise_append.mp sorted
    rw [length_takeWhile_append]
    · rw [List.length_append, List.length_take, Nat.min_eq_left (Nat.le_of_lt within)]
      rfl
    · intro item member
      rw [decide_eq_true_eq]
      rcases List.mem_append.mp member with earlier | here
      · exact Nat.le_of_lt ((List.pairwise_append.mp before).2.2 item earlier offset
          List.mem_cons_self)
      · exact Nat.le_of_eq (List.mem_singleton.mp here)
    · intro item member
      rw [decide_eq_true_eq, Nat.not_le]
      exact across offset (List.mem_append_right _ List.mem_cons_self) item member
  | @gap index within below above =>
    have begun : 0 < index := by
      apply Nat.pos_of_ne_zero
      rintro rfl
      exact Nat.not_lt_zero _ (above 0 List.mem_cons_self)
    rw [← List.take_append_drop index (lineStarts source.text), length_takeWhile_append]
    · rw [List.length_take, Nat.min_eq_left within, linesBefore, Nat.sub_add_cancel begun]
    · intro item member
      exact decide_eq_true (Nat.le_of_lt (below item member))
    · intro item member
      rw [decide_eq_true_eq, Nat.not_le]
      exact above item member

theorem toNat_numbered {count : Nat} (short : count < 0xFFFFFFFF) :
    (numbered count).toNat = count + 1 := by
  have within : count < UInt32.size := Nat.lt_trans short (by decide)
  rw [numbered, if_pos within, UInt32.toNat_add, UInt32.toNat_ofNat']
  have one : (1 : UInt32).toNat = 1 := rfl
  rw [one, Nat.mod_eq_of_lt (by omega)]
  omega

theorem Searched.toNat_line {source : Source} {offset : Nat} {answer : Except Nat Nat}
    (short : source.lineCount ≤ 0xFFFFFFFF)
    (searched : Searched (byteTable source.text) offset answer) :
    (numbered (linesBefore answer)).toNat = source.lineOf offset := by
  have lines := searched.lineOf_eq
  have within := source.lineOf_le_lineCount offset
  rw [lines] at within ⊢
  exact toNat_numbered (by omega)

namespace Source

theorem column_le (source : Source) (start stop : Nat) :
    ((between? start stop source.text).getD []).length ≤ source.bytes := by
  cases found : between? start stop source.text with
  | none => exact Nat.zero_le _
  | some run =>
    obtain ⟨left, right, splits, _⟩ := between?_eq_some found
    have wide := length_le_byteLength run
    rw [Option.getD_some, bytes, splits, byteLength_append, byteLength_append]
    omega

theorem searchedPlace_eq {source : Source} {offset : Nat} {answer : Except Nat Nat}
    (short : source.bytes < 0xFFFFFFFF)
    (searched : Searched (byteTable source.text) offset answer) :
    (source.searchedPlace answer offset).1.toNat = (source.positionAt offset).line ∧
      (source.searchedPlace answer offset).2.toNat = (source.positionAt offset).column := by
  have lines := searched.lineOf_eq
  have line := searched.toNat_line (Nat.le_trans source.lineCount_le short)
  have numbered : numbered (linesBefore answer) ≠ 0 := by
    intro zero
    rw [zero, lines] at line
    cases line
  refine ⟨line, ?_⟩
  unfold searchedPlace positionAt lineStart? columnBetween
  dsimp only
  rw [if_neg numbered, line, byteTable_eq]
  rw [toNat_numbered (Nat.lt_of_le_of_lt (source.column_le _ _) short)]
  rw [if_neg (by omega)]
  rfl

theorem takeWhile_line {lines part : List Char} (inline : '\n' ∉ part)
    (ends : lines = [] ∨ ∃ first, lines = first ++ ['\n']) :
    (lines ++ part).reverse.takeWhile (· ≠ '\n') = part.reverse := by
  rw [List.reverse_append, List.takeWhile_append_of_pos]
  · rcases ends with rfl | ⟨first, rfl⟩
    · simp
    · simp
  · intro c member
    rw [decide_eq_true_eq]
    rintro rfl
    exact inline (List.mem_reverse.mp member)

structure Placed (source : Source) (offset : Nat) (before : List Char) : Prop where
  line : (source.positionAt offset).line = 1 + (utf8 before).count 0xA
  column : (source.positionAt offset).column =
    1 + (before.reverse.takeWhile (· ≠ '\n')).length
  back : ∃ start lines behind,
    source.lineStart? (source.positionAt offset).line = some start ∧
    source.text = lines ++ behind ∧ byteLength lines = start ∧
    start + byteLength (behind.take ((source.positionAt offset).column - 1)) = offset
  answered : ∃ answer, Searched (byteTable source.text) offset answer
  searched : source.bytes < 0xFFFFFFFF → ∀ answer,
    Searched (byteTable source.text) offset answer →
      (source.searchedPlace answer offset).1.toNat = (source.positionAt offset).line ∧
        (source.searchedPlace answer offset).2.toNat = (source.positionAt offset).column

theorem placed_of_split {source : Source} {before after : List Char}
    (splits : source.text = before ++ after) : source.Placed (byteLength before) before := by
  obtain ⟨lines, part, rfl, inline, ends⟩ := lines_then_part before
  have position := positionAt_of_lines splits inline ends
  have newlines : (lines ++ part).count '\n' = lines.count '\n' := by
    simp [List.count_eq_zero.mpr inline]
  have starts := lineStart_boundary source.name after inline ends
  rw [← splits, newlines] at starts
  constructor
  · rw [position, count_utf8, newlines, Nat.add_comm]
  · rw [position, takeWhile_line inline ends, List.length_reverse]
    exact Nat.add_comm _ _
  · rw [position]
    refine ⟨byteLength lines, lines, part ++ after, starts, ?_, rfl, ?_⟩
    · rw [splits, List.append_assoc]
    · rw [Nat.add_sub_cancel, List.take_left, byteLength_append]
  · exact ⟨_, searched_bisect (pairwise_byteTable source.text) _⟩
  · exact fun short answer searched => searchedPlace_eq short searched

theorem before_of_lt {source : Source} {first second : Nat} (one : source.IsBoundary first)
    (other : source.IsBoundary second) (less : first < second) :
    (source.positionAt first).line < (source.positionAt second).line ∨
      (source.positionAt first).line = (source.positionAt second).line ∧
        (source.positionAt first).column < (source.positionAt second).column := by
  obtain ⟨before, after, splits, rfl⟩ := one
  obtain ⟨longer, rest, grown, rfl⟩ := other
  obtain ⟨between, rfl, _⟩ := split_of_le (splits.symm.trans grown) (Nat.le_of_lt less)
  rw [positionAt_eq_afterRun splits, positionAt_eq_afterRun grown, Position.afterRun_append]
  by_cases newline : '\n' ∈ between
  · left
    have counted := List.count_pos_iff.mpr newline
    rw [Position.line_afterRun _ between]
    omega
  · right
    have nonempty : between ≠ [] := by
      rintro rfl
      simp at less
    have moved := List.length_pos_iff.mpr nonempty
    rw [Position.afterRun_inline _ newline]
    exact ⟨rfl, Nat.lt_add_of_pos_right moved⟩

structure OneToOne (source : Source) : Prop where
  placed : ∀ before after, source.text = before ++ after →
    source.Placed (byteLength before) before
  ordered : ∀ first second, source.IsBoundary first → source.IsBoundary second → first < second →
    (source.positionAt first).line < (source.positionAt second).line ∨
      (source.positionAt first).line = (source.positionAt second).line ∧
        (source.positionAt first).column < (source.positionAt second).column

theorem positions_one_to_one (source : Source) : source.OneToOne where
  placed _ _ := placed_of_split
  ordered _ _ := before_of_lt

example : [0, 1, 3, 4, 5, 6].map (positionAt ⟨"t", ['\t', 'β', '\n', '\n', 'c']⟩) =
    [⟨0, 1, 1⟩, ⟨1, 1, 2⟩, ⟨3, 1, 3⟩, ⟨4, 2, 1⟩, ⟨5, 3, 1⟩, ⟨6, 3, 2⟩] := by decide

end Source
end TemplateCompiler
