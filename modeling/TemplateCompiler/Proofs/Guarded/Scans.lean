import TemplateCompiler.Proofs.Guarded.Reads
import TemplateCompiler.Proofs.ScanAnswers

namespace TemplateCompiler

def Outcome.result {σ α : Type} (outcome : Outcome σ α) : Except Fault (Read α) :=
  match outcome.value with
  | .ok value => .ok ⟨value, outcome.length⟩
  | .error fault => .error fault

theorem Outcome.result_error {σ α : Type} {outcome : Outcome σ α} {fault : Fault}
    (failed : outcome.value = .error fault) : outcome.result = .error fault := by
  rw [result, failed]

namespace Guarded

section Scans
variable {σ α β : Type} {bound : Nat} {around : Surroundings σ bound} {source : Source}
  {cursor : Cursor}

theorem Agrees.cases {good : α → Cursor → Prop} {run : Except Halt (α × Cursor)}
    {outcome : Outcome σ α} (agrees : Agrees source cursor good run outcome.result) :
    (∃ fault, outcome.value = .error fault ∧ run = .error (.fault fault) ∧
      source.Locates fault) ∨
    ∃ value length memory, outcome = ⟨.ok value, length, memory⟩ ∧
      run = .ok (value, cursor.skip length) ∧ good value (cursor.skip length) := by
  obtain ⟨value, length, memory⟩ := outcome
  cases value with
  | error fault => exact .inl ⟨fault, rfl, agrees⟩
  | ok value => exact .inr ⟨value, length, memory, rfl, agrees⟩

theorem Agrees.after_skip {good : α → Cursor → Prop} {run : Except Halt (α × Cursor)} {count : Nat}
    {outcome : Outcome σ α}
    (agrees : Agrees source (cursor.skip count) good run outcome.result) :
    Agrees source cursor good run
      (Outcome.result ⟨outcome.value, count + outcome.length, outcome.memory⟩) := by
  rcases agrees.cases with
    ⟨fault, failed, halts, located⟩ | ⟨value, length, memory, rfl, ends, holds⟩
  · have further : (⟨outcome.value, count + outcome.length, outcome.memory⟩ :
        Outcome σ α).value = .error fault := failed
    rw [Outcome.result_error further]
    exact ⟨halts, located⟩
  · rw [Cursor.skip_skip] at ends holds
    exact ⟨ends, holds⟩

end Scans
end Guarded
end TemplateCompiler
