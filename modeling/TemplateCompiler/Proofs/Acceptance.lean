import TemplateCompiler.Proofs.Blame
import TemplateCompiler.Proofs.Locality
import TemplateCompiler.Proofs.Tiling

namespace TemplateCompiler
open Text Code

namespace MacroTable
variable {σ : Type}

theorem blocksOnly_empty : BlocksOnly (empty : MacroTable σ) := by
  intro entry member
  cases member

theorem macroless_empty (name : String) : (empty : MacroTable σ).contains name = false := rfl

end MacroTable

section Macroless
variable {marker : Char} {known : String → Bool} {text rest : List Char}
  {fragments : List Fragment}

end Macroless

theorem OpensCode.lead {marker opening closing : Char} {lead : List Char}
    (opens : OpensCode marker lead opening closing) : lead = [marker] ∨ lead = [marker, '^'] := by
  cases opens with
  | parenthesized | localBlock => exact .inl rfl
  | globalBlock => exact .inr rfl

theorem Culprit.breaks {marker : Char} {known : String → Bool} {lead ahead : List Char}
    (neutral : NeutralMarker marker) (culprit : Culprit marker .unbalanced lead ahead) :
    ∃ closing, Breaks marker known .item (lead ++ ahead) (some (.unclosed lead closing)) := by
  obtain ⟨brace, caret, parenthesis⟩ := neutral.apart
  cases culprit with
  | @unbalanced _ opening closing text opens never =>
    have least : ∀ run, run <+: opening :: text → ¬ LeastMatched opening closing run :=
      fun run begins found => never run begins found.1
    refine ⟨closing, ?_⟩
    cases opens with
    | parenthesized => exact .unclosed (.parenthesized parenthesis least)
    | localBlock => exact .unclosed (.localBlock brace least)
    | globalBlock => exact .unclosed (.globalBlock caret least)

-- A split of a text at the marker of code that never closes. The text before is read and does not
-- leave a lone marker, with which this one would be an escape.
structure StuckAt {σ : Type} (marker : Char) (source : Source) (memory : σ)
    (before lead ahead : List Char) : Prop where
  splits : source.text = before ++ lead ++ ahead
  culprit : Culprit marker .unbalanced lead ahead
  reads : ∃ tokens,
    (Lexer.tokenize ⟨marker, .empty⟩ ⟨source.name, before⟩ memory).value = .ok tokens ∧
    ∀ last ∈ tokens.getLast?, Source.covered ⟨source.name, before⟩ last.slice ≠ some [marker]

theorem Fragment.covered_getLast? (source : Source) {fragments : List Fragment}
    (covers : source.text = Fragment.source fragments) :
    (lay source.name .start fragments).getLast?.map (fun token => source.covered token.slice) =
      fragments.getLast?.map fun fragment => some fragment.covered := by
  have views := map_lay (fun token => source.covered token.slice)
    (fun fragment => some fragment.covered) [] covers fun lead fragment rest => covered_token
  rw [← List.getLast?_map, ← List.getLast?_map]
  exact congrArg List.getLast? views

namespace StuckAt
variable {σ : Type} {marker : Char} {source : Source} {memory : σ}
  {before lead ahead : List Char}

theorem lead_eq (stuck : StuckAt marker source memory before lead ahead) :
    lead = [marker] ∨ lead = [marker, '^'] := by
  cases stuck.culprit with
  | unbalanced opens never => exact opens.lead

theorem breaks (neutral : NeutralMarker marker)
    (stuck : StuckAt marker source memory before lead ahead) :
    ∃ closing, Breaks marker (MacroTable.empty : MacroTable σ).contains (.items false) source.text
      (some ((Breach.unclosed lead closing).behind before)) := by
  obtain ⟨tokens, result, last⟩ := stuck.reads
  obtain ⟨fragments, lexes, rfl⟩ := Lexer.tokenize_follows MacroTable.blocksOnly_empty result
  have covers := lexes.covers_whole
  have edge : ∀ c ∈ (lead ++ ahead).head?, EndsRuns marker c ∧ c ≠ '{' := by
    intro c first
    obtain rfl : marker = c := by
      rcases stuck.lead_eq with rfl | rfl <;> exact Option.some.inj first
    exact ⟨⟨neutral.not_padding, by simp [isTextRune], neutral.word⟩, neutral.apart.1.symm⟩
  have alone : ∀ fragment ∈ fragments.getLast?, fragment.covered = [marker] →
      ¬ StartsConstruct marker (lead ++ ahead) := by
    intro fragment ends lone
    have view := Fragment.covered_getLast? ⟨source.name, before⟩ covers
    rw [Option.mem_def.mp ends, Option.map_some, lone, Option.map_eq_some_iff] at view
    obtain ⟨token, final, covered⟩ := view
    exact absurd covered (last token final)
  obtain ⟨closing, item⟩ := stuck.culprit.breaks neutral
  have grown := lexes.grow MacroTable.macroless_empty edge alone
  refine ⟨closing, ?_⟩
  rw [stuck.splits, List.append_assoc]
  have whole := grown.breaks (.here (by simp) item)
  rwa [← covers] at whole

theorem refused (neutral : NeutralMarker marker)
    (stuck : StuckAt marker source memory before lead ahead) :
    ∃ message, (Lexer.tokenize ⟨marker, .empty⟩ source memory).value = .error (.error
      (source.errorAt .tokenizer .unbalanced (byteLength (before ++ lead)) message)) := by
  obtain ⟨closing, breaks⟩ := stuck.breaks neutral
  refine ⟨(Breach.unclosed lead closing).message, ?_⟩
  rw [Lexer.tokenize_fails MacroTable.blocksOnly_empty breaks memory, Source.errorAt,
    Source.positionAt_eq_afterRun stuck.splits]
  simp [Breach.error, Breach.behind, Breach.unclosed]

-- The error tells the byte of the delimiter, and the runes before it from the marker on are told
-- by their last one.
theorem unique (neutral : NeutralMarker marker) {others mark after : List Char}
    (stuck : StuckAt marker source memory before lead ahead)
    (again : StuckAt marker source memory others mark after) :
    others = before ∧ mark = lead ∧ after = ahead := by
  obtain ⟨message, one⟩ := stuck.refused neutral
  obtain ⟨other, two⟩ := again.refused neutral
  rw [one] at two
  have place := congrArg (fun error : TemplateError => error.place.map (·.position.offset))
    (Fault.error.inj (Except.error.inj two))
  have bytes : byteLength (before ++ lead) = byteLength (others ++ mark) := Option.some.inj place
  obtain ⟨same, rfl⟩ := split_unique (stuck.splits.symm.trans again.splits) bytes
  have ends := congrArg List.getLast? same
  have apart : marker ≠ '^' := neutral.apart.2.1.symm
  rcases stuck.lead_eq with rfl | rfl <;> rcases again.lead_eq with rfl | rfl
  · exact ⟨(List.append_cancel_right same).symm, rfl, rfl⟩
  · exact absurd (by simpa using ends) apart
  · exact absurd (by simpa using ends.symm) apart
  · exact ⟨(List.append_cancel_right same).symm, rfl, rfl⟩

end StuckAt

end TemplateCompiler
