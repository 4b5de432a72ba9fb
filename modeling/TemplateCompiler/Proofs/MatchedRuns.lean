import TemplateCompiler.Cursor.Read

namespace TemplateCompiler
namespace Code

def structural : Quoting → List Char → List Char
  | _, [] => []
  | quoting, c :: rest =>
    if quoting.isStructural c then c :: structural (quoting.feed c) rest
    else structural (quoting.feed c) rest

theorem structural_append (quoting : Quoting) (left right : List Char) :
    structural quoting (left ++ right) =
      structural quoting left ++ structural (left.foldl Quoting.feed quoting) right := by
  induction left generalizing quoting with
  | nil => rfl
  | cons c rest ih =>
    rw [List.cons_append, structural, structural, List.foldl_cons, ih]
    split <;> rfl

def Matched (opening closing : Char) (run : List Char) : Prop :=
  run.head? = some opening ∧
    (structural .plain run).count opening = (structural .plain run).count closing

def LeastMatched (opening closing : Char) (run : List Char) : Prop :=
  Matched opening closing run ∧
    ∀ shorter, shorter <+: run → Matched opening closing shorter → shorter = run

instance (opening closing : Char) (run : List Char) : Decidable (Matched opening closing run) :=
  inferInstanceAs (Decidable (_ ∧ _))

theorem length_lt_of_beginning {shorter run : List Char} (begins : shorter <+: run)
    (other : shorter ≠ run) : shorter.length < run.length := by
  apply Nat.lt_of_le_of_ne begins.length_le
  intro same
  exact other (begins.eq_of_length same)

theorem leastMatched_iff_take {opening closing : Char} {run : List Char} :
    LeastMatched opening closing run ↔ Matched opening closing run ∧
      ∀ length < run.length, ¬ Matched opening closing (run.take length) := by
  apply and_congr_right
  intro _
  constructor
  · intro least length shorter matched
    have same := congrArg List.length (least _ (List.take_prefix length run) matched)
    rw [List.length_take_of_le (Nat.le_of_lt shorter)] at same
    omega
  · intro never shorter begins matched
    apply Classical.byContradiction
    intro other
    have fewer := length_lt_of_beginning begins other
    rw [List.prefix_iff_eq_take.mp begins] at matched
    exact never _ fewer matched

instance (opening closing : Char) (run : List Char) :
    Decidable (LeastMatched opening closing run) :=
  decidable_of_decidable_of_iff leastMatched_iff_take.symm

theorem Matched.least {opening closing : Char} {run : List Char}
    (matched : Matched opening closing run) :
    ∃ least, least <+: run ∧ LeastMatched opening closing least := by
  induction size : run.length using Nat.strongRecOn generalizing run with
  | _ length ih =>
    subst size
    by_cases least : LeastMatched opening closing run
    · exact ⟨run, List.prefix_refl run, least⟩
    · simp only [LeastMatched, matched, true_and, Classical.not_forall] at least
      obtain ⟨shorter, begins, balanced, other⟩ := least
      obtain ⟨least, first, found⟩ := ih _ (length_lt_of_beginning begins other) balanced rfl
      exact ⟨least, first.trans begins, found⟩

-- Two runes that can delimit code: quotes cannot open, and a rune does not close itself.
structure Delimiters (opening closing : Char) : Prop where
  apart : opening ≠ closing
  unquoted : Quoting.plain.isStructural opening

section Depth
variable {opening closing : Char}

def change (opening closing : Char) (quoting : Quoting) (c : Char) : Int :=
  if quoting.isStructural c then if c = opening then 1 else if c = closing then -1 else 0 else 0

-- Depth after a run, from `depth` before it. Unlike the depth that is kept while reading it may
-- fall below zero.
def reached (opening closing : Char) (depth : Int) (quoting : Quoting) (run : List Char) : Int :=
  depth + (structural quoting run).count opening - (structural quoting run).count closing

@[simp] theorem reached_nil (depth : Int) (quoting : Quoting) :
    reached opening closing depth quoting [] = depth := by
  simp [reached, structural]

theorem reached_cons (apart : opening ≠ closing) (depth : Int) (quoting : Quoting) (c : Char)
    (rest : List Char) : reached opening closing depth quoting (c :: rest) =
      reached opening closing (depth + change opening closing quoting c) (quoting.feed c) rest := by
  unfold reached change
  rw [structural]
  split
  · rw [List.count_cons, List.count_cons]
    by_cases opens : c = opening
    · subst opens
      simp [apart]
      omega
    · by_cases closes : c = closing
      · subst closes
        simp [opens]
        omega
      · simp [opens, closes]
  · simp

-- From a depth that is not below zero, no depth below zero is reached without passing zero.
theorem passes_zero (apart : opening ≠ closing) {depth : Int} (above : 0 ≤ depth)
    {quoting : Quoting} {run : List Char}
    (below : reached opening closing depth quoting run ≤ 0) :
    ∃ shorter, shorter <+: run ∧ reached opening closing depth quoting shorter = 0 := by
  induction run generalizing depth quoting with
  | nil =>
    rw [reached_nil] at below
    exact ⟨[], List.nil_prefix, by rw [reached_nil]; omega⟩
  | cons c rest ih =>
    by_cases zero : depth = 0
    · exact ⟨[], List.nil_prefix, by rw [reached_nil, zero]⟩
    · rw [reached_cons apart] at below
      have still : 0 ≤ depth + change opening closing quoting c := by
        unfold change
        split <;> (try split) <;> (try split) <;> omega
      obtain ⟨shorter, begins, same⟩ := ih still below
      exact ⟨c :: shorter, List.cons_prefix_cons.mpr ⟨rfl, begins⟩, by rw [reached_cons apart, same]⟩

structure Closes (opening closing : Char) (depth : Int) (quoting : Quoting) (run : List Char) :
    Prop where
  level : reached opening closing depth quoting run = 0
  deeper : ∀ shorter, shorter <+: run → shorter ≠ run →
    0 < reached opening closing depth quoting shorter

theorem closes_cons (apart : opening ≠ closing) {depth : Int} (deep : 0 < depth)
    {quoting : Quoting} {c : Char} {rest : List Char} :
    Closes opening closing depth quoting (c :: rest) ↔
      Closes opening closing (depth + change opening closing quoting c) (quoting.feed c) rest := by
  constructor
  · rintro ⟨level, deeper⟩
    refine ⟨by rw [← level, reached_cons apart], ?_⟩
    intro shorter begins other
    have later := deeper (c :: shorter) (List.cons_prefix_cons.mpr ⟨rfl, begins⟩) (by simpa)
    rwa [reached_cons apart] at later
  · rintro ⟨level, deeper⟩
    refine ⟨by rw [reached_cons apart, level], ?_⟩
    intro shorter begins other
    rcases List.prefix_cons_iff.mp begins with rfl | ⟨others, rfl, further⟩
    · simpa using deep
    · rw [reached_cons apart]
      exact deeper others further (by simpa using other)

theorem Closes.unique {depth : Int} {quoting : Quoting} {text left right : List Char}
    (first : Closes opening closing depth quoting left) (begins : left <+: text)
    (second : Closes opening closing depth quoting right) (other : right <+: text) :
    left = right := by
  cases List.prefix_or_prefix_of_prefix begins other with
  | inl shorter =>
    apply Classical.byContradiction
    intro differ
    have deeper := second.deeper left shorter differ
    have level := first.level
    omega
  | inr longer =>
    apply Classical.byContradiction
    intro differ
    have deeper := first.deeper right longer (Ne.symm differ)
    have level := second.level
    omega

theorem Closes.ends (apart : opening ≠ closing) {depth : Int} (deep : 0 < depth)
    {quoting : Quoting} {run : List Char} (closes : Closes opening closing depth quoting run) :
    ∃ inner, run = inner ++ [closing] := by
  induction run generalizing depth quoting with
  | nil =>
    have level := closes.level
    rw [reached_nil] at level
    omega
  | cons c rest ih =>
    cases rest with
    | nil =>
      have level := closes.level
      rw [reached_cons apart, reached_nil] at level
      have last : c = closing := by
        unfold change at level
        split at level
        · split at level
          · omega
          · split at level
            · assumption
            · omega
        · omega
      exact ⟨[], by rw [last]; rfl⟩
    | cons next others =>
      have further := closes.deeper [c] (by simp) (by simp)
      rw [reached_cons apart, reached_nil] at further
      obtain ⟨inner, same⟩ := ih further ((closes_cons apart deep).mp closes)
      exact ⟨c :: inner, by rw [same]; rfl⟩

theorem leastMatched_iff (delimiters : Delimiters opening closing) {run : List Char} :
    LeastMatched opening closing run ↔
      ∃ tail, run = opening :: tail ∧ Closes opening closing 1 .plain tail := by
  obtain ⟨apart, unquoted⟩ := delimiters
  have fed : Quoting.plain.feed opening = .plain := by
    simp only [Quoting.isStructural, decide_eq_true_eq] at unquoted
    simp [Quoting.feed, unquoted]
  have matched (tail : List Char) : Matched opening closing (opening :: tail) ↔
      reached opening closing 1 .plain tail = 0 := by
    simp only [Matched, structural, unquoted, if_true, fed, List.head?_cons, true_and,
      List.count_cons_self, List.count_cons_of_ne apart, reached]
    omega
  constructor
  · rintro ⟨balanced, least⟩
    obtain ⟨tail, rfl⟩ : ∃ tail, run = opening :: tail := by
      cases run with
      | nil => cases balanced.1
      | cons c tail =>
        cases balanced.1
        exact ⟨tail, rfl⟩
    refine ⟨tail, rfl, (matched tail).mp balanced, ?_⟩
    intro shorter begins other
    apply Classical.byContradiction
    intro below
    obtain ⟨shortest, first, zero⟩ := passes_zero apart (by omega) (Int.not_lt.mp below)
    have whole := least (opening :: shortest)
      (List.cons_prefix_cons.mpr ⟨rfl, first.trans begins⟩) ((matched shortest).mpr zero)
    cases whole
    exact other (begins.eq_of_length_le first.length_le)
  · rintro ⟨tail, rfl, level, deeper⟩
    refine ⟨(matched tail).mpr level, ?_⟩
    intro shorter begins balanced
    rcases List.prefix_cons_iff.mp begins with rfl | ⟨others, rfl, first⟩
    · cases balanced.1
    · have zero := (matched others).mp balanced
      by_cases same : others = tail
      · rw [same]
      · have deep := deeper others first same
        omega

theorem LeastMatched.ends (delimiters : Delimiters opening closing) {run : List Char}
    (least : LeastMatched opening closing run) : ∃ code, run = opening :: code ++ [closing] := by
  obtain ⟨tail, rfl, closes⟩ := (leastMatched_iff delimiters).mp least
  obtain ⟨code, rfl⟩ := closes.ends delimiters.apart (by omega)
  exact ⟨code, rfl⟩

end Depth

section Reading
variable {opening closing : Char}

theorem obey_closed (text : List Char) :
    obey (Balance.rule opening closing) .closed text = (0, none) := by
  cases text <;> rfl

-- One rune more: the depth changes by what the rune adds, and zero closes the run.
theorem step_eq (apart : opening ≠ closing) {depth : Nat} (deep : 0 < depth) (quoting : Quoting)
    (c : Char) :
    (depth + change opening closing quoting c = 0 ∧
      Balance.step opening closing depth quoting c = .closed) ∨
    ∃ next : Nat, 0 < next ∧ (next : Int) = depth + change opening closing quoting c ∧
      Balance.step opening closing depth quoting c = .within next (quoting.feed c) := by
  unfold change Balance.step
  split
  · by_cases opens : c = opening
    · exact .inr ⟨depth + 1, by omega, by simp [opens], by simp [opens]⟩
    · by_cases closes : c = closing
      · by_cases last : depth - 1 = 0
        · exact .inl ⟨by simp [closes, Ne.symm apart]; omega,
            by simp [closes, Ne.symm apart, last]⟩
        · exact .inr ⟨depth - 1, by omega, by simp [closes, Ne.symm apart]; omega,
            by simp [closes, Ne.symm apart, last]⟩
      · exact .inr ⟨depth, deep, by simp [opens, closes], by simp [opens, closes]⟩
  · exact .inr ⟨depth, deep, by simp, rfl⟩

theorem obey_within_take {depth : Nat} {quoting : Quoting} {c : Char} {rest : List Char}
    {next : Balance} (step : Balance.step opening closing depth quoting c = next) :
    obey (Balance.rule opening closing) (.within depth quoting) (c :: rest) =
      ((obey (Balance.rule opening closing) next rest).1 + 1,
        (obey (Balance.rule opening closing) next rest).2) := by
  subst step
  rfl

theorem obey_taken (apart : opening ≠ closing) {depth count : Nat} (deep : 0 < depth)
    {quoting : Quoting} {text : List Char}
    (taken : obey (Balance.rule opening closing) (.within depth quoting) text = (count, none)) :
    ∃ run, run <+: text ∧ count = run.length ∧ Closes opening closing depth quoting run := by
  induction text generalizing depth quoting count with
  | nil => cases taken
  | cons c rest ih =>
    rcases step_eq apart deep quoting c with ⟨zero, step⟩ | ⟨next, further, sum, step⟩
    · rw [obey_within_take step, obey_closed] at taken
      cases taken
      have closed : Closes opening closing (depth + change opening closing quoting c)
          (quoting.feed c) [] :=
        ⟨by rw [reached_nil, zero], fun shorter begins other =>
          absurd (List.prefix_nil.mp begins) other⟩
      exact ⟨[c], by simp, rfl, (closes_cons apart (by omega)).mpr closed⟩
    · rw [obey_within_take step] at taken
      obtain ⟨rfl, answered⟩ := Prod.mk.inj taken
      obtain ⟨run, begins, same, closes⟩ := ih further (Prod.ext rfl answered)
      rw [sum] at closes
      exact ⟨c :: run, List.cons_prefix_cons.mpr ⟨rfl, begins⟩, congrArg (· + 1) same,
        (closes_cons apart (by omega)).mpr closes⟩

theorem obey_refused (apart : opening ≠ closing) {depth count : Nat} (deep : 0 < depth)
    {quoting : Quoting} {text : List Char} {message : String}
    (refused : obey (Balance.rule opening closing) (.within depth quoting) text =
      (count, some message)) :
    message = s!"missing closing `{closing}`" ∧
      ∀ run, run <+: text → 0 < reached opening closing depth quoting run := by
  induction text generalizing depth quoting count with
  | nil =>
    refine ⟨by cases refused; rfl, ?_⟩
    intro run begins
    rw [List.prefix_nil.mp begins, reached_nil]
    omega
  | cons c rest ih =>
    rcases step_eq apart deep quoting c with ⟨zero, step⟩ | ⟨next, further, sum, step⟩
    · rw [obey_within_take step, obey_closed] at refused
      cases refused
    · rw [obey_within_take step] at refused
      obtain ⟨rfl, answered⟩ := Prod.mk.inj refused
      obtain ⟨same, deeper⟩ := ih further (Prod.ext rfl answered)
      refine ⟨same, ?_⟩
      intro run begins
      rcases List.prefix_cons_iff.mp begins with rfl | ⟨others, rfl, first⟩
      · rw [reached_nil]
        omega
      · rw [reached_cons apart, ← sum]
        exact deeper others first

theorem obey_start (delimiters : Delimiters opening closing) (tail : List Char) :
    obey (Balance.rule opening closing) .start (opening :: tail) =
      ((obey (Balance.rule opening closing) (.within 1 .plain) tail).1 + 1,
        (obey (Balance.rule opening closing) (.within 1 .plain) tail).2) := by
  obtain ⟨_, unquoted⟩ := delimiters
  apply obey_within_take
  have fed : Quoting.plain.feed opening = .plain := by
    simp only [Quoting.isStructural, decide_eq_true_eq] at unquoted
    simp [Quoting.feed, unquoted]
  simp [Balance.step, unquoted, fed]

theorem obey_least (delimiters : Delimiters opening closing) {run : List Char}
    (least : LeastMatched opening closing run) (rest : List Char) :
    obey (Balance.rule opening closing) .start (run ++ rest) = (run.length, none) := by
  obtain ⟨tail, rfl, closes⟩ := (leastMatched_iff delimiters).mp least
  have begins : tail <+: tail ++ rest := List.prefix_append tail rest
  rw [List.cons_append, obey_start delimiters]
  rcases read : obey (Balance.rule opening closing) (.within 1 .plain) (tail ++ rest) with
    ⟨count, refusal⟩
  cases refusal with
  | none =>
    obtain ⟨run, other, rfl, closed⟩ := obey_taken delimiters.apart Nat.one_pos read
    rw [closed.unique other closes begins]
    rfl
  | some message =>
    have deeper : 0 < reached opening closing 1 .plain tail :=
      (obey_refused delimiters.apart Nat.one_pos read).2 tail begins
    have level := closes.level
    omega

theorem obey_open (delimiters : Delimiters opening closing) {text : List Char}
    (ahead : text.head? = some opening)
    (opens : ∀ run, run <+: text → ¬ LeastMatched opening closing run) :
    (obey (Balance.rule opening closing) .start text).2 =
      some s!"missing closing `{closing}`" := by
  obtain ⟨tail, rfl⟩ := List.head?_eq_some_iff.mp ahead
  rw [obey_start delimiters]
  rcases read : obey (Balance.rule opening closing) (.within 1 .plain) tail with ⟨count, refusal⟩
  cases refusal with
  | none =>
    obtain ⟨run, begins, _, closes⟩ := obey_taken delimiters.apart Nat.one_pos read
    exact absurd ((leastMatched_iff delimiters).mpr ⟨run, rfl, closes⟩)
      (opens _ (List.cons_prefix_cons.mpr ⟨rfl, begins⟩))
  | some message =>
    rw [(obey_refused delimiters.apart Nat.one_pos read).1]

end Reading
end Code

namespace Cursor
open Text Code

theorem between?_delimiters (opening closing : Char) (code : List Char) :
    between? opening.utf8Size (byteLength (opening :: code ++ [closing]) - closing.utf8Size)
      (opening :: code ++ [closing]) = some code := by
  have bytes : byteLength (opening :: code ++ [closing]) - closing.utf8Size =
      byteLength [opening] + byteLength code := by
    simp only [byteLength_append, byteLength_cons, byteLength_nil, Nat.add_zero,
      Nat.add_sub_cancel]
  rw [bytes]
  exact between?_append [opening] code [closing]

theorem readBalanced_least {opening closing : Char} (delimiters : Delimiters opening closing)
    {cursor : Cursor} (keep : Bool) {code rest : List Char}
    (splits : cursor.rest = (opening :: code ++ [closing]) ++ rest)
    (least : LeastMatched opening closing (opening :: code ++ [closing])) :
    cursor.readBalanced opening closing keep =
      .ok ⟨if keep then opening :: code ++ [closing] else code, code.length + 2⟩ := by
  have taken := obey_least delimiters least rest
  have inner := between?_delimiters opening closing code
  have length : (opening :: code ++ [closing]).length = code.length + 2 := by simp
  rw [← splits] at taken
  simp only [readBalanced, taken]
  rw [splits, List.take_left, inner, length]
  cases keep <;> rfl

theorem readBalanced_open {opening closing : Char} (delimiters : Delimiters opening closing)
    {cursor : Cursor} (keep : Bool) (ahead : cursor.rest.head? = some opening)
    (opens : ∀ run, run <+: cursor.rest → ¬ LeastMatched opening closing run) :
    cursor.readBalanced opening closing keep =
      .error (.error (cursor.errorHere .unbalanced s!"missing closing `{closing}`")) := by
  have refused := obey_open delimiters ahead opens
  unfold readBalanced
  split
  · rename_i read
    rw [read] at refused
    cases Option.some.inj refused
    rfl
  · rename_i read
    rw [read] at refused
    cases refused

end Cursor
end TemplateCompiler
