import Mathlib.Data.List.Forall2
import TemplateCompiler.Proofs.Grammar

namespace TemplateCompiler
open Text Code

namespace Code

def Nesting.afterRun (nesting : Nesting) (run : List Char) : Nesting := run.foldl feed nesting

@[simp] theorem Nesting.afterRun_cons (nesting : Nesting) (c : Char) (run : List Char) :
    nesting.afterRun (c :: run) = (nesting.feed c).afterRun run := rfl

theorem quoting_afterRun (nesting : Nesting) (run : List Char) :
    (nesting.afterRun run).quoting = run.foldl Quoting.feed nesting.quoting := by
  induction run generalizing nesting with
  | nil => rfl
  | cons c rest ih =>
    have fed : (nesting.feed c).quoting = nesting.quoting.feed c := by
      unfold Nesting.feed
      split <;> (try split) <;> (try split) <;> rfl
    rw [Nesting.afterRun_cons, ih, fed, List.foldl_cons]

structure IsHeader (marker : Char) (header : List Char) : Prop where
  closed : (Nesting.start.afterRun header).isTop
  unmarked : ∀ before after, header = before ++ marker :: after →
    (Nesting.start.afterRun before).quoting ≠ .plain

theorem headerFrom?_isHeader {marker : Char} {text header : List Char} {nesting : Nesting}
    (found : headerFrom? marker nesting text = some header) :
    (nesting.afterRun header).isTop ∧ ∀ before after, header = before ++ marker :: after →
      (nesting.afterRun before).quoting ≠ .plain := by
  induction text generalizing nesting header with
  | nil => cases found
  | cons c rest ih =>
    unfold headerFrom? at found
    split at found
    · cases found
    · rename_i unmarked
      split at found
      · rename_i opens
        cases found
        refine ⟨opens.2.1, ?_⟩
        intro before after splits
        simp at splits
      · obtain ⟨others, later, rfl⟩ := Option.map_eq_some_iff.mp found
        obtain ⟨closed, further⟩ := ih later
        refine ⟨closed, ?_⟩
        intro before after splits
        cases before with
        | nil =>
          cases splits
          simpa [Nesting.afterRun, Quoting.isPlain] using unmarked
        | cons d before =>
          cases splits
          exact further before after rfl

theorem header?_isHeader {marker : Char} {text header : List Char}
    (found : header? marker text = some header) : IsHeader marker header :=
  ⟨(headerFrom?_isHeader found).1, (headerFrom?_isHeader found).2⟩

end Code

namespace Text

def Piece.Takes : Piece → List Char → Prop
  | .literal runes, run => run = runes
  | .many set, run => ∀ c ∈ run, set c
  | .several set, run => run ≠ [] ∧ ∀ c ∈ run, set c
  | .wordEdge, run => run = []

theorem Piece.takes_of_length? {piece : Piece} {before : Option Char} {text : List Char}
    {count : Nat} (found : piece.length? before text = some count) :
    piece.Takes (text.take count) := by
  have run (set : Char → Bool) :
      text.take (text.takeWhile set).length = text.takeWhile set :=
    (List.prefix_iff_eq_take.mp (List.takeWhile_prefix set)).symm
  have inside (set : Char → Bool) : ∀ c ∈ text.takeWhile set, set c :=
    fun c member => List.all_eq_true.mp List.all_takeWhile c member
  cases piece with
  | literal runes =>
    simp only [Piece.length?, Option.ite_none_right_eq_some] at found
    obtain ⟨begins, same⟩ := found
    cases same
    exact (List.prefix_iff_eq_take.mp (List.isPrefixOf_iff_prefix.mp begins)).symm
  | many set =>
    cases found
    rw [run]
    exact inside set
  | several set =>
    simp only [Piece.length?, Option.ite_none_left_eq_some] at found
    obtain ⟨nonempty, same⟩ := found
    cases same
    rw [run]
    exact ⟨fun empty => nonempty (by simp [empty]), inside set⟩
  | wordEdge =>
    simp only [Piece.length?, Option.ite_none_right_eq_some] at found
    obtain ⟨_, same⟩ := found
    cases same
    exact List.take_zero

theorem Pattern.takes_of_length? {pattern : Pattern} {text : List Char} {count : Nat}
    (found : pattern.length? text = some count) :
    ∃ runs, List.Forall₂ Piece.Takes pattern runs ∧ text.take count = runs.flatten := by
  unfold Pattern.length? at found
  generalize none = before at found
  induction pattern generalizing before text count with
  | nil =>
    cases found
    exact ⟨[], .nil, List.take_zero⟩
  | cons piece pieces ih =>
    unfold Pattern.lengthFrom? at found
    split at found
    · cases found
    · rename_i taken first
      obtain ⟨others, later, rfl⟩ := Option.map_eq_some_iff.mp found
      obtain ⟨runs, takes, same⟩ := ih _ later
      refine ⟨text.take taken :: runs, .cons (Piece.takes_of_length? first) takes, ?_⟩
      rw [List.take_add, same, List.flatten_cons]

section Taken
variable {before : Option Char} {run rest : List Char} {pieces : Pattern}

theorem Pattern.lengthFrom?_cons {piece : Piece}
    (takes : piece.length? before (run ++ rest) = some run.length) :
    Pattern.lengthFrom? before (run ++ rest) (piece :: pieces) =
      (Pattern.lengthFrom? (run.getLast?.or before) rest pieces).map (run.length + ·) := by
  rw [Pattern.lengthFrom?, takes]
  simp only [List.take_left, List.drop_left]

theorem Pattern.lengthFrom?_literal :
    Pattern.lengthFrom? before (run ++ rest) (.literal run :: pieces) =
      (Pattern.lengthFrom? (run.getLast?.or before) rest pieces).map (run.length + ·) :=
  lengthFrom?_cons (if_pos (List.isPrefixOf_iff_prefix.mpr (List.prefix_append run rest)))

theorem Pattern.lengthFrom?_many {set : Char → Bool} (inside : ∀ c ∈ run, set c)
    (outside : ∀ c ∈ rest.head?, set c = false) :
    Pattern.lengthFrom? before (run ++ rest) (.many set :: pieces) =
      (Pattern.lengthFrom? (run.getLast?.or before) rest pieces).map (run.length + ·) :=
  lengthFrom?_cons (by rw [Piece.length?, takeWhile_run inside outside])

theorem Pattern.lengthFrom?_several {set : Char → Bool} (apart : run ≠ [])
    (inside : ∀ c ∈ run, set c) (outside : ∀ c ∈ rest.head?, set c = false) :
    Pattern.lengthFrom? before (run ++ rest) (.several set :: pieces) =
      (Pattern.lengthFrom? (run.getLast?.or before) rest pieces).map (run.length + ·) := by
  apply lengthFrom?_cons
  simp only [Piece.length?, takeWhile_run inside outside]
  exact if_neg (mt List.length_eq_zero_iff.mp apart)

end Taken
end Text

-- The words between a closing brace and the header of an `else if`, and those before the body of
-- an `else`.
inductive ElseIfWords : List Char → Prop
  | mk {gap space} (gapBlank : ∀ c ∈ gap, isBlank c) (spaceBlank : ∀ c ∈ space, isBlank c)
      (apart : space ≠ []) :
      ElseIfWords ('}' :: gap ++ ['e', 'l', 's', 'e'] ++ space ++ ['i', 'f'])

inductive ElseWords : List Char → Prop
  | mk {gap space} (gapBlank : ∀ c ∈ gap, isBlank c) (spaceBlank : ∀ c ∈ space, isBlank c) :
      ElseWords ('}' :: gap ++ ['e', 'l', 's', 'e'] ++ space ++ ['{'])

theorem elseIfAt?_words {marker : Char} {text head header : List Char}
    (found : elseIfAt? marker text = some (head, header)) :
    ElseIfWords head ∧ IsHeader marker header := by
  obtain ⟨length, words, found⟩ := Option.bind_eq_some_iff.mp found
  obtain ⟨code, opens, same⟩ := Option.map_eq_some_iff.mp found
  cases same
  refine ⟨?_, header?_isHeader opens⟩
  obtain ⟨runs, takes, same⟩ := Pattern.takes_of_length? words
  rcases takes with _ | ⟨rfl, takes⟩
  rcases takes with _ | ⟨gapBlank, takes⟩
  rcases takes with _ | ⟨rfl, takes⟩
  rcases takes with _ | ⟨⟨apart, spaceBlank⟩, takes⟩
  rcases takes with _ | ⟨rfl, takes⟩
  rcases takes with _ | ⟨rfl, takes⟩
  cases takes
  rw [same]
  simpa using ElseIfWords.mk gapBlank spaceBlank apart

theorem elseAt?_words {marker : Char} {text head : List Char}
    (found : elseAt? marker text = some head) : ElseWords head := by
  obtain ⟨length, words, found⟩ := Option.bind_eq_some_iff.mp found
  simp only [Option.ite_none_right_eq_some] at found
  obtain ⟨runs, takes, same⟩ := Pattern.takes_of_length? words
  rcases takes with _ | ⟨rfl, takes⟩
  rcases takes with _ | ⟨gapBlank, takes⟩
  rcases takes with _ | ⟨rfl, takes⟩
  rcases takes with _ | ⟨spaceBlank, takes⟩
  rcases takes with _ | ⟨rfl, takes⟩
  cases takes
  rw [← Option.some.inj found.2, same]
  simpa using ElseWords.mk gapBlank spaceBlank

-- The words before a header are taken whole, unless the last of them goes on.
theorem elseIfPattern_length? {head later : List Char} (words : ElseIfWords head) :
    elseIfPattern.length? (head ++ later) =
      if later.head?.any isWordRune then none else some head.length := by
  obtain ⟨gapBlank, spaceBlank, apart⟩ := words
  rename_i gap space
  have e : ∀ c ∈ (['e', 'l', 's', 'e'] ++ (space ++ (['i', 'f'] ++ later))).head?,
      isBlank c = false := by
    intro c ahead
    cases ahead
    decide
  have i : ∀ c ∈ (['i', 'f'] ++ later).head?, isBlank c = false := by
    intro c ahead
    cases ahead
    decide
  have edge : Pattern.lengthFrom? (some 'f') later [.wordEdge] =
      if later.head?.any isWordRune then none else some 0 := by
    have word : isWordRune 'f' = true := by decide +kernel
    cases ahead : later.head?.any isWordRune <;>
      simp [Pattern.lengthFrom?, Piece.length?, word, ahead]
  have text : '}' :: gap ++ ['e', 'l', 's', 'e'] ++ space ++ ['i', 'f'] ++ later =
      ['}'] ++ (gap ++ (['e', 'l', 's', 'e'] ++ (space ++ (['i', 'f'] ++ later)))) := by simp
  rw [text, Pattern.length?, elseIfPattern, Pattern.lengthFrom?_literal,
    Pattern.lengthFrom?_many gapBlank e, Pattern.lengthFrom?_literal,
    Pattern.lengthFrom?_several apart spaceBlank i, Pattern.lengthFrom?_literal]
  simp only [List.getLast?_cons_cons, List.getLast?_singleton, Option.some_or, edge]
  split
  · rfl
  · simp
    omega

theorem elsePattern_length? {head later : List Char} (words : ElseWords head) :
    elsePattern.length? (head ++ later) = some head.length := by
  obtain ⟨gapBlank, spaceBlank⟩ := words
  rename_i gap space
  have e : ∀ c ∈ (['e', 'l', 's', 'e'] ++ (space ++ (['{'] ++ later))).head?,
      isBlank c = false := by
    intro c ahead
    cases ahead
    decide
  have brace : ∀ c ∈ (['{'] ++ later).head?, isBlank c = false := by
    intro c ahead
    cases ahead
    decide
  have text : '}' :: gap ++ ['e', 'l', 's', 'e'] ++ space ++ ['{'] ++ later =
      ['}'] ++ (gap ++ (['e', 'l', 's', 'e'] ++ (space ++ (['{'] ++ later)))) := by simp
  rw [text, Pattern.length?, elsePattern, Pattern.lengthFrom?_literal,
    Pattern.lengthFrom?_many gapBlank e, Pattern.lengthFrom?_literal,
    Pattern.lengthFrom?_many spaceBlank brace, Pattern.lengthFrom?_literal]
  simp
  omega

theorem elseIfAt?_iff {marker : Char} {text head header : List Char} :
    elseIfAt? marker text = some (head, header) ↔ ElseIfWords head ∧ ∃ later,
      text = head ++ later ∧ later.head?.any isWordRune = false ∧
      header? marker later = some header := by
  constructor
  · intro found
    have words := (elseIfAt?_words found).1
    obtain ⟨length, taken, found⟩ := Option.bind_eq_some_iff.mp found
    obtain ⟨code, opens, same⟩ := Option.map_eq_some_iff.mp found
    cases same
    rw [← List.take_append_drop length text, elseIfPattern_length? words] at taken
    simp only [Option.ite_none_left_eq_some] at taken
    exact ⟨words, _, (List.take_append_drop length text).symm, by simpa using taken.1, opens⟩
  · rintro ⟨words, later, rfl, edge, opens⟩
    rw [elseIfAt?, elseIfPattern_length? words, if_neg (by simp [edge]), Option.bind_some,
      List.drop_left, opens, List.take_left]
    rfl

theorem elseAt?_iff {marker : Char} {text head : List Char} :
    elseAt? marker text = some head ↔ ElseWords head ∧ head ++ [marker] <+: text := by
  constructor
  · intro found
    obtain ⟨inner, splits⟩ := elseAt?_split found
    exact ⟨elseAt?_words found, inner, by simp [splits]⟩
  · rintro ⟨words, inner, rfl⟩
    rw [elseAt?, List.append_assoc, elsePattern_length? words, Option.bind_some, List.drop_left,
      List.take_left]
    exact if_pos rfl

end TemplateCompiler
