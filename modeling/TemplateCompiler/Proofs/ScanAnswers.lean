import TemplateCompiler.Proofs.Fragments
import TemplateCompiler.Macro.Scan

namespace TemplateCompiler
namespace Scan
variable {σ α β : Type} {bound : Nat} {around : Surroundings σ bound} {cursor middle later : Cursor}

def Finds (around : Surroundings σ bound) (scan : Scan σ α) (cursor : Cursor) (value : α)
    (later : Cursor) : Prop :=
  ∀ within memory, ∃ length,
    scan bound around cursor within memory = ⟨.ok value, length, memory⟩ ∧
      later = cursor.skip length

def Fails (around : Surroundings σ bound) (scan : Scan σ α) (cursor : Cursor) (fault : Fault) :
    Prop :=
  ∀ within memory, (scan bound around cursor within memory).value = .error fault

theorem andThen_eq {first : Scan σ α} {next : α → Scan σ β}
    {within : cursor.rest.length ≤ bound} {memory : σ} {outcome : Outcome σ α}
    (found : first bound around cursor within memory = outcome) :
    (first >>= next : Scan σ β) bound around cursor within memory =
      match outcome.value with
      | .error fault => ⟨.error fault, outcome.length, outcome.memory⟩
      | .ok value =>
        let right := next value bound around (cursor.skip outcome.length)
          (Cursor.skip_within within outcome.length) outcome.memory
        ⟨right.value, outcome.length + right.length, right.memory⟩ := by
  subst found
  rfl

theorem finds_bind {first : Scan σ α} {next : α → Scan σ β} {state : α} {value : β}
    (one : Finds around first cursor state middle)
    (two : Finds around (next state) middle value later) :
    Finds around (first >>= next) cursor value later := by
  intro within memory
  obtain ⟨length, left, rfl⟩ := one within memory
  obtain ⟨more, right, rfl⟩ := two (Cursor.skip_within within length) memory
  refine ⟨length + more, ?_, Cursor.skip_skip _ _ _⟩
  rw [andThen_eq left]
  simp only [right]

theorem fails_bind {first : Scan σ α} {next : α → Scan σ β} {fault : Fault}
    (fails : Fails around first cursor fault) : Fails around (first >>= next) cursor fault := by
  intro within memory
  rw [andThen_eq rfl]
  simp only [fails within memory]

theorem fails_after {first : Scan σ α} {next : α → Scan σ β} {state : α} {fault : Fault}
    (one : Finds around first cursor state middle) (fails : Fails around (next state) middle fault) :
    Fails around (first >>= next) cursor fault := by
  intro within memory
  obtain ⟨length, left, rfl⟩ := one within memory
  rw [andThen_eq left]
  exact fails (Cursor.skip_within within length) memory

theorem finds_pure (value : α) : Finds around (pure value) cursor value cursor :=
  fun _ _ => ⟨0, rfl, (Cursor.skip_zero _).symm⟩

theorem finds_marker : Finds around marker cursor around.marker cursor :=
  fun _ _ => ⟨0, rfl, (Cursor.skip_zero _).symm⟩

theorem finds_cursor : Finds around Scan.cursor cursor cursor cursor :=
  fun _ _ => ⟨0, rfl, (Cursor.skip_zero _).symm⟩

theorem finds_read {reading : Cursor → Read α} {found : Read α} (same : reading cursor = found) :
    Finds around (read reading) cursor found.value (cursor.after found) :=
  fun _ _ => ⟨found.length, by rw [read, same], rfl⟩

theorem finds_skip (count : Nat) : Finds around (skip count) cursor () (cursor.skip count) :=
  finds_read rfl

theorem finds_readOrFail {reading : Cursor → Except Fault (Read α)} {found : Read α}
    (same : reading cursor = .ok found) :
    Finds around (readOrFail reading) cursor found.value (cursor.after found) :=
  fun _ _ => ⟨found.length, by simp only [readOrFail, same], rfl⟩

theorem fails_readOrFail {reading : Cursor → Except Fault (Read α)} {fault : Fault}
    (same : reading cursor = .error fault) : Fails around (readOrFail reading) cursor fault :=
  fun _ _ => by simp only [readOrFail, same]

theorem finds_fragment {start : Cursor} (fragment : Fragment)
    (passes : start.Passes fragment.covered cursor) :
    Finds around (tokenFrom start.position fragment.kind (String.ofList fragment.text)) cursor
      (fragment.token start.name start.position) cursor := by
  intro within memory
  refine ⟨0, ?_, (Cursor.skip_zero _).symm⟩
  rw [tokenFrom, ← passes.token, Cursor.spanTo, passes.name]

theorem finds_readBody {openedAt : Nat} {tokens : List Token}
    (closes : ∀ within memory, ∃ length,
      around.readBody cursor within memory = ⟨tokens, .closed, length, memory⟩ ∧
        later = cursor.skip length) :
    Finds around (readBody openedAt) cursor tokens later := by
  intro within memory
  obtain ⟨length, read, moved⟩ := closes within memory
  refine ⟨length, ?_, moved⟩
  simp only [readBody, read]
  rfl

theorem finds_rounds_none {round : α → Scan σ (Option α)} {state : α}
    (stops : Finds around (round state) cursor none later) :
    Finds around (rounds round state) cursor state later := by
  intro within memory
  obtain ⟨length, read, moved⟩ := stops within memory
  refine ⟨length, ?_, moved⟩
  rw [rounds, roundsFrom]
  simp only [read]

theorem finds_rounds_some {round : α → Scan σ (Option α)} {state next value : α}
    (goes : Finds around (round state) cursor (some next) middle)
    (shorter : middle.rest.length < cursor.rest.length)
    (further : Finds around (rounds round next) middle value later) :
    Finds around (rounds round state) cursor value later := by
  intro within memory
  obtain ⟨length, read, rfl⟩ := goes within memory
  obtain ⟨more, others, rfl⟩ := further (Cursor.skip_within within length) memory
  refine ⟨length + more, ?_, Cursor.skip_skip _ _ _⟩
  rw [rounds] at others
  rw [rounds, roundsFrom]
  simp only [read, dif_pos shorter, others]

theorem fails_rounds {round : α → Scan σ (Option α)} {state : α} {fault : Fault}
    (fails : Fails around (round state) cursor fault) :
    Fails around (rounds round state) cursor fault := by
  intro within memory
  rw [rounds, roundsFrom]
  simp only [fails within memory]

theorem fails_rounds_after {round : α → Scan σ (Option α)} {state next : α} {fault : Fault}
    (goes : Finds around (round state) cursor (some next) middle)
    (shorter : middle.rest.length < cursor.rest.length)
    (fails : Fails around (rounds round next) middle fault) :
    Fails around (rounds round state) cursor fault := by
  intro within memory
  obtain ⟨length, read, rfl⟩ := goes within memory
  have others := fails (Cursor.skip_within within length) memory
  rw [rounds] at others
  rw [rounds, roundsFrom]
  simp only [read, dif_pos shorter, others]

end Scan
end TemplateCompiler
