import TemplateCompiler.Proofs.Constructs
import TemplateCompiler.Proofs.CursorPositions
import TemplateCompiler.Proofs.QuotedSpans

namespace TemplateCompiler
namespace Code

def Balances (opening closing : Char) (run : List Char) : Prop :=
  run ≠ [] ∧ ∃ code, Outside run code ∧ code.count opening = code.count closing

structure ShortestBalanced (opening closing : Char) (text run : List Char) : Prop where
  begins : run <+: text
  balances : Balances opening closing run
  shortest : ∀ other, other <+: text → Balances opening closing other → run.length ≤ other.length

def Unquoting (c : Char) : Prop := c ≠ '"' ∧ c ≠ backtick

theorem delimiters_of_unquoting {opening closing : Char} (apart : opening ≠ closing)
    (solid : Unquoting opening) : Delimiters opening closing :=
  ⟨apart, by simpa [Quoting.isStructural] using And.comm.mp solid⟩

section Beginnings
variable {opening closing : Char} {text run : List Char}

theorem balances_iff_matched (ahead : text.head? = some opening) (begins : run <+: text) :
    Balances opening closing run ↔ Matched opening closing run := by
  simp only [Balances, Matched, outside_iff]
  obtain ⟨rest, rfl⟩ := begins
  cases run with
  | nil => simp
  | cons c others => simpa using fun _ => Option.some.inj ahead

theorem shortestBalanced_iff_least (ahead : text.head? = some opening) :
    ShortestBalanced opening closing text run ↔ run <+: text ∧ LeastMatched opening closing run := by
  constructor
  · rintro ⟨begins, balances, shortest⟩
    refine ⟨begins, (balances_iff_matched ahead begins).mp balances, ?_⟩
    intro shorter first matched
    have early := first.trans begins
    have long := shortest shorter early ((balances_iff_matched ahead early).mpr matched)
    exact first.eq_of_length_le long
  · rintro ⟨begins, matched, least⟩
    refine ⟨begins, (balances_iff_matched ahead begins).mpr matched, ?_⟩
    intro other early balances
    cases List.prefix_or_prefix_of_prefix begins early with
    | inl longer => exact longer.length_le
    | inr shorter =>
      have same := least other shorter ((balances_iff_matched ahead early).mp balances)
      exact Nat.le_of_eq (congrArg List.length same.symm)

theorem shortest_or_open (ahead : text.head? = some opening) :
    (∃ run, ShortestBalanced opening closing text run) ∨
      ∀ run, run <+: text → ¬ Balances opening closing run := by
  apply Classical.or_iff_not_imp_right.mpr
  intro balanced
  simp only [Classical.not_forall, Classical.not_not] at balanced
  obtain ⟨run, begins, balances⟩ := balanced
  have matched := (balances_iff_matched ahead begins).mp balances
  obtain ⟨first, early, least⟩ := matched.least
  exact ⟨first, (shortestBalanced_iff_least ahead).mpr ⟨early.trans begins, least⟩⟩

theorem ShortestBalanced.elsewhere (shortest : ShortestBalanced opening closing text run)
    {other : List Char} (begins : run <+: other) :
    ShortestBalanced opening closing other run := by
  refine ⟨begins, shortest.balances, ?_⟩
  intro candidate early balances
  cases List.prefix_or_prefix_of_prefix begins early with
  | inl longer => exact longer.length_le
  | inr shorter => exact shortest.shortest candidate (shorter.trans shortest.begins) balances

theorem ShortestBalanced.head (shortest : ShortestBalanced opening closing text run)
    (ahead : text.head? = some opening) {other : List Char} (begins : run <+: other) :
    other.head? = some opening := by
  have matched := (balances_iff_matched ahead shortest.begins).mp shortest.balances
  obtain ⟨inner, rfl⟩ := List.head?_eq_some_iff.mp matched.1
  obtain ⟨rest, rfl⟩ := begins
  rfl

end Beginnings
end Code

namespace Cursor
open Text Code

theorem readBalanced_of_shortest {opening closing : Char} (delimiters : Delimiters opening closing)
    {cursor : Cursor} {run : List Char} (keep : Bool) (ahead : cursor.rest.head? = some opening)
    (shortest : ShortestBalanced opening closing cursor.rest run) :
    cursor.readBalanced opening closing keep =
      .ok ⟨if keep then run else run.tail.dropLast, run.length⟩ := by
  obtain ⟨⟨rest, splits⟩, least⟩ := (shortestBalanced_iff_least ahead).mp shortest
  obtain ⟨code, rfl⟩ := least.ends delimiters
  rw [readBalanced_least delimiters keep splits.symm least]
  simp

theorem readBalanced_of_open {opening closing : Char} (delimiters : Delimiters opening closing)
    {cursor : Cursor} (keep : Bool) (ahead : cursor.rest.head? = some opening)
    (never : ∀ run, run <+: cursor.rest → ¬ Balances opening closing run) :
    cursor.readBalanced opening closing keep =
      .error (.error (cursor.errorHere .unbalanced s!"missing closing `{closing}`")) ∧
    ∃ taken, obey (Balance.rule opening closing) .start cursor.rest =
      (taken, some s!"missing closing `{closing}`") := by
  have opens : ∀ run, run <+: cursor.rest → ¬ LeastMatched opening closing run := by
    intro run begins least
    exact never run begins ((shortestBalanced_iff_least ahead).mpr ⟨begins, least⟩).balances
  exact ⟨readBalanced_open delimiters keep ahead opens, _,
    Prod.ext rfl (obey_open delimiters ahead opens)⟩

-- What a balanced reading answers, for every text ahead. A failing one has the place of the cursor,
-- and the cursor is back there.
structure ReadsShortest (opening closing : Char) (keep : Bool) (cursor : Cursor) : Prop where
  succeeds : (∃ read, cursor.readBalanced opening closing keep = .ok read) ↔
    ∃ run, run <+: cursor.rest ∧ Balances opening closing run
  shortest : ∀ read, cursor.readBalanced opening closing keep = .ok read →
    ∃ run, ShortestBalanced opening closing cursor.rest run ∧
      read.value = (if keep then run else run.tail.dropLast) ∧
      cursor.Passes run (cursor.after read) ∧
      ∀ other : Cursor, run <+: other.rest → other.readBalanced opening closing keep = .ok read
  refuses : (∀ run, run <+: cursor.rest → ¬ Balances opening closing run) →
    cursor.readBalanced opening closing keep =
      .error (.error (cursor.errorHere .unbalanced s!"missing closing `{closing}`")) ∧
    ∃ taken, obey (Balance.rule opening closing) .start cursor.rest =
        (taken, some s!"missing closing `{closing}`") ∧
      ∀ source, Canonical source cursor → (cursor.skip taken).seek cursor.offset = .ok cursor

theorem readBalanced_shortest {opening closing : Char} (apart : opening ≠ closing)
    (solid : Unquoting opening) (keep : Bool) {cursor : Cursor}
    (ahead : cursor.rest.head? = some opening) : ReadsShortest opening closing keep cursor := by
  have delimiters := delimiters_of_unquoting apart solid
  constructor
  · constructor
    · rintro ⟨read, done⟩
      rcases shortest_or_open ahead with ⟨run, shortest⟩ | never
      · exact ⟨run, shortest.begins, shortest.balances⟩
      · rw [(readBalanced_of_open delimiters keep ahead never).1] at done
        cases done
    · rintro ⟨run, begins, balances⟩
      rcases shortest_or_open ahead with ⟨first, shortest⟩ | never
      · exact ⟨_, readBalanced_of_shortest delimiters keep ahead shortest⟩
      · exact absurd balances (never run begins)
  · intro read done
    rcases shortest_or_open ahead with ⟨run, shortest⟩ | never
    · rw [readBalanced_of_shortest delimiters keep ahead shortest] at done
      cases done
      obtain ⟨rest, splits⟩ := shortest.begins
      refine ⟨run, shortest, rfl, passes_skip splits.symm, ?_⟩
      intro other begins
      exact readBalanced_of_shortest delimiters keep (shortest.head ahead begins)
        (shortest.elsewhere begins)
    · rw [(readBalanced_of_open delimiters keep ahead never).1] at done
      cases done
  · intro never
    obtain ⟨failed, taken, obeyed⟩ := readBalanced_of_open delimiters keep ahead never
    exact ⟨failed, taken, obeyed, fun source canonical =>
      (canonical.skip taken).seek_offset canonical⟩

-- A quote that a backslash protects and a raw span hold closing delimiters of three bytes; the run
-- ends at the one that closes the first, before another one.
theorem readBalanced_past_spans :
    ∃ cursor : Cursor, cursor.rest = ['⟨', '"', '\\', '"', '⟩', '"', backtick, '\\', '⟩', backtick,
        '⟨', '⟩', 'é', '⟩', '⟩'] ∧
      '⟨' ≠ '⟩' ∧ Unquoting '⟨' ∧ cursor.rest.head? = some '⟨' ∧
      cursor.readBalanced '⟨' '⟩' false = .ok ⟨['"', '\\', '"', '⟩', '"', backtick, '\\', '⟩',
        backtick, '⟨', '⟩', 'é'], 14⟩ ∧
      ReadsShortest '⟨' '⟩' false cursor :=
  ⟨⟨"t", [], _, .start⟩, rfl, by decide, ⟨by decide, by decide⟩, rfl, rfl,
    readBalanced_shortest (by decide) ⟨by decide, by decide⟩ false rfl⟩

end Cursor
end TemplateCompiler
