import Mathlib.Data.List.Chain
import TemplateCompiler.Proofs.TwoStages

namespace TemplateCompiler
namespace Token

theorem length_le_mergedText (first second : Token) :
    first.text.length ≤ (mergedText first second).length := by
  unfold mergedText
  split
  · simp
  · simp only [String.length_append]
    omega

theorem mergedText_longer (first : Token) {second third : Token}
    (longer : second.text.length ≤ third.text.length) :
    (mergedText first second).length ≤ (mergedText first third).length := by
  unfold mergedText
  split <;> simp <;> omega

-- A refused token that has taken in its right neighbour is still refused: it has kept its kind,
-- source and start, and its text has only become longer.
theorem Mergeable.of_merged {before first second : Token} (grows : Mergeable first second)
    (merges : Mergeable before (merged first second)) : Mergeable before first := by
  obtain ⟨kind, mergedKind, bare, _, short, source, place⟩ := merges
  have longer : first.text.length ≤ (merged first second).text.length :=
    length_le_mergedText first second
  refine ⟨kind, mergedKind, bare, grows.2.2.1, ?_, source, place⟩
  exact (mergedText_longer before longer).trans short

theorem asContent_of_solid {token : Token}
    (solid : token.kind ≠ .whitespace ∧ token.kind ≠ .newline) : token.asContent = token := by
  unfold asContent
  split
  · exact absurd ‹_› solid.1
  · exact absurd ‹_› solid.2
  · rfl

end Token

namespace TwoStages
open Token

structure Settled (tokens : List Token) : Prop where
  solid : ∀ token ∈ tokens, token.kind ≠ .whitespace ∧ token.kind ≠ .newline
  apart : tokens.IsChain fun first second => ¬ Mergeable first second

-- The output as the second stage holds it, latest first.
structure Stacked (written : List Token) : Prop where
  solid : ∀ token ∈ written, token.kind ≠ .whitespace ∧ token.kind ≠ .newline
  apart : written.IsChain fun later earlier => ¬ Mergeable earlier later

theorem Stacked.settled {written : List Token} (stacked : Stacked written) :
    Settled written.reverse where
  solid token member := stacked.solid token (List.mem_reverse.mp member)
  apart := List.isChain_reverse.mpr stacked.apart

theorem Stacked.place {written : List Token} (stacked : Stacked written) (token : Token) :
    Stacked (place written token) := by
  have fresh := asContent_not_blank token
  cases written with
  | nil => exact ⟨by simpa [TwoStages.place] using fresh, .singleton _⟩
  | cons last earlier =>
    obtain ⟨solid, apart⟩ := stacked
    obtain ⟨first, others⟩ := List.forall_mem_cons.mp solid
    by_cases mergeable : Mergeable last token.asContent
    · simp only [TwoStages.place, if_pos mergeable]
      refine ⟨List.forall_mem_cons.mpr ⟨first, others⟩, ?_⟩
      cases earlier with
      | nil => exact .singleton _
      | cons before rest =>
        obtain ⟨refused, apart⟩ := List.isChain_cons_cons.mp apart
        exact .cons_cons (fun merges => refused (mergeable.of_merged merges)) apart
    · simp only [TwoStages.place, if_neg mergeable]
      exact ⟨List.forall_mem_cons.mpr ⟨fresh, solid⟩, .cons_cons mergeable apart⟩

theorem Stacked.foldl_place {written : List Token} (stacked : Stacked written)
    (tokens : List Token) : Stacked (tokens.foldl TwoStages.place written) := by
  induction tokens generalizing written with
  | nil => exact stacked
  | cons token rest ih => exact ih (stacked.place token)

theorem stacked_nil : Stacked [] := ⟨by simp, .nil⟩

theorem settled_optimize (tokens : List Token) (trim : Bool) : Settled (optimize tokens trim) := by
  rw [optimize_merges, mergeAll]
  exact (stacked_nil.foldl_place _).settled

theorem foldl_place_settled {tokens : List Token} (settled : Settled tokens)
    {written : List Token}
    (refused : ∀ last ∈ written.head?, ∀ token ∈ tokens.head?, ¬ Mergeable last token) :
    tokens.foldl TwoStages.place written = tokens.reverse ++ written := by
  induction tokens generalizing written with
  | nil => rfl
  | cons token rest ih =>
    obtain ⟨first, others⟩ := List.forall_mem_cons.mp settled.solid
    have placed : TwoStages.place written token = token :: written := by
      cases written with
      | nil => simp [TwoStages.place, asContent_of_solid first]
      | cons last earlier =>
        have apart := refused last rfl token rfl
        simp only [TwoStages.place, asContent_of_solid first, if_neg apart]
    have further : ∀ last ∈ (token :: written).head?, ∀ next ∈ rest.head?,
        ¬ Mergeable last next := by
      intro last same next ahead
      cases same
      cases rest with
      | nil => cases ahead
      | cons second others =>
        cases ahead
        exact (List.isChain_cons_cons.mp settled.apart).1
    rw [List.foldl_cons, placed, ih ⟨others, settled.apart.tail⟩ further]
    simp

theorem keptFrom_solid (before : List Token) {tokens : List Token}
    (solid : ∀ token ∈ tokens, token.kind ≠ .whitespace ∧ token.kind ≠ .newline) :
    keptFrom before tokens = tokens := by
  induction tokens generalizing before with
  | nil => rfl
  | cons token rest ih =>
    obtain ⟨first, others⟩ := List.forall_mem_cons.mp solid
    have stays : ¬ Trimmed before rest token := by
      rintro (⟨kind, _⟩ | ⟨kind, _⟩)
      · exact first.1 kind
      · exact first.2 kind
    rw [keptFrom, if_neg stays, ih _ others]

theorem optimize_of_settled {tokens : List Token} (settled : Settled tokens) (trim : Bool) :
    optimize tokens trim = tokens := by
  have kept : (if trim then keptFrom [] tokens else tokens) = tokens := by
    rw [keptFrom_solid [] settled.solid, ite_self]
  rw [optimize_merges, kept, mergeAll, foldl_place_settled settled (by simp), List.append_nil,
    List.reverse_reverse]

-- Whatever was optimized is settled for good: a second time changes nothing under either flag, and
-- the merge of the optimizer refuses every pair of neighbours.
theorem optimize_optimize (tokens : List Token) (first second : Bool) :
    optimize (optimize tokens first) second = optimize tokens first ∧
      (∀ token ∈ optimize tokens first, token.kind ≠ .whitespace ∧ token.kind ≠ .newline) ∧
      (optimize tokens first).IsChain fun left right => left.merge? right = none := by
  have settled := settled_optimize tokens first
  refine ⟨optimize_of_settled settled second, settled.solid, ?_⟩
  apply settled.apart.imp_of_mem_imp
  intro left right _ member refused
  exact merge?_of_not_mergeable (settled.solid right member) refused

end TwoStages
end TemplateCompiler
