import TemplateCompiler.Macro.Scan

namespace TemplateCompiler
namespace Scan
variable {σ α β : Type} {bound : Nat} {around : Surroundings σ bound} {cursor later : Cursor}

def Runs (around : Surroundings σ bound) (scan : Scan σ α) (cursor : Cursor) (value : α)
    (later : Cursor) : Prop :=
  ∃ within memory, (scan bound around cursor within memory).value = .ok value ∧
    later = cursor.skip (scan bound around cursor within memory).length

theorem runs_bind {first : Scan σ α} {next : α → Scan σ β} {value : β}
    (runs : Runs around (first >>= next) cursor value later) :
    ∃ state middle, Runs around first cursor state middle ∧
      Runs around (next state) middle value later := by
  obtain ⟨within, memory, result, moved⟩ := runs
  change (andThen first next bound around cursor within memory).value = .ok value at result
  change later = cursor.skip (andThen first next bound around cursor within memory).length at moved
  unfold andThen at result moved
  dsimp only at result moved
  split at result
  · cases result
  · rename_i state left
    rw [left] at moved
    exact ⟨state, _, ⟨within, memory, left, rfl⟩, _, _, result, by rw [moved, Cursor.skip_skip]⟩

theorem runs_still {scan : Scan σ α} {value found : α}
    (still : ∀ within memory, scan bound around cursor within memory = ⟨.ok value, 0, memory⟩)
    (runs : Runs around scan cursor found later) : found = value ∧ later = cursor := by
  obtain ⟨within, memory, result, moved⟩ := runs
  rw [still] at result moved
  exact ⟨(Except.ok.inj result).symm, moved.trans cursor.skip_zero⟩

theorem runs_pure {value found : α} (runs : Runs around (pure value) cursor found later) :
    found = value ∧ later = cursor :=
  runs_still (fun _ _ => rfl) runs

theorem runs_marker {found : Char} (runs : Runs around marker cursor found later) :
    found = around.marker ∧ later = cursor :=
  runs_still (fun _ _ => rfl) runs

theorem runs_cursor {found : Cursor} (runs : Runs around Scan.cursor cursor found later) :
    found = cursor ∧ later = cursor :=
  runs_still (fun _ _ => rfl) runs

theorem runs_tokenFrom {start : Position} {kind : TokenKind} {text : String} {found : Token}
    (runs : Runs around (tokenFrom start kind text) cursor found later) :
    found = .plain kind ⟨cursor.name, text, start, cursor.position⟩ ∧ later = cursor :=
  runs_still (fun _ _ => rfl) runs

theorem runs_read {reading : Cursor → Read α} {found : α}
    (runs : Runs around (read reading) cursor found later) :
    found = (reading cursor).value ∧ later = cursor.after (reading cursor) := by
  obtain ⟨within, memory, result, moved⟩ := runs
  cases result
  exact ⟨rfl, moved⟩

theorem runs_readOrFail {reading : Cursor → Except Fault (Read α)} {found : α}
    (runs : Runs around (readOrFail reading) cursor found later) :
    ∃ taken, reading cursor = .ok taken ∧ found = taken.value ∧ later = cursor.after taken := by
  obtain ⟨within, memory, result, moved⟩ := runs
  cases read : reading cursor with
  | error fault => simp [readOrFail, read] at result
  | ok taken =>
    simp only [readOrFail, read] at result moved
    exact ⟨taken, rfl, (Except.ok.inj result).symm, moved⟩

theorem runs_skip {count : Nat} {found : Unit}
    (runs : Runs around (skip count) cursor found later) : later = cursor.skip count :=
  (runs_read runs).2

theorem runs_readBody {openedAt : Nat} {found : List Token}
    (runs : Runs around (readBody openedAt) cursor found later) :
    ∃ within memory, (around.readBody cursor within memory).stop = .closed ∧
      found = (around.readBody cursor within memory).tokens ∧
      later = cursor.skip (around.readBody cursor within memory).length := by
  obtain ⟨within, memory, result, moved⟩ := runs
  unfold readBody at result moved
  dsimp only at result moved
  split at result
  · rename_i settled
    rw [settled] at moved
    refine ⟨within, memory, ?_, (Except.ok.inj result).symm, moved⟩
    unfold BodyRun.settle at settled
    split at settled
    · assumption
    · cases settled
    · split at settled <;> cases settled
  · cases result

theorem runs_rounds {round : α → Scan σ (Option α)} {state found : α}
    (runs : Runs around (rounds round state) cursor found later) :
    (Runs around (round state) cursor none later ∧ found = state) ∨
    ∃ next middle, Runs around (round state) cursor (some next) middle ∧
      ((middle.rest.length < cursor.rest.length ∧
        Runs around (rounds round next) middle found later) ∨
      (¬ middle.rest.length < cursor.rest.length ∧ found = next ∧ later = middle)) := by
  obtain ⟨within, memory, result, moved⟩ := runs
  unfold rounds roundsFrom at result moved
  dsimp only at result moved
  split at result
  · cases result
  · rename_i first
    rw [first] at moved
    exact .inl ⟨⟨within, memory, first, moved⟩, (Except.ok.inj result).symm⟩
  · rename_i next first
    rw [first] at moved
    dsimp only at moved
    refine .inr ⟨next, _, ⟨within, memory, first, rfl⟩, ?_⟩
    split at result
    · rename_i shorter
      rw [dif_pos shorter] at moved
      exact .inl ⟨shorter, _, _, result, by rw [moved, Cursor.skip_skip]; rfl⟩
    · rename_i longer
      rw [dif_neg longer] at moved
      exact .inr ⟨longer, (Except.ok.inj result).symm, moved⟩

end Scan
end TemplateCompiler
