import TemplateCompiler.Compiler
import TemplateCompiler.Proofs.Guarded.Lexer
import TemplateCompiler.Proofs.TwoStages

namespace TemplateCompiler
open Text

def AllSeen (tokens : List Token) : Prop := ∀ token ∈ tokens, token.kind.isOpaque = false

theorem allSeen_nil : AllSeen [] := by simp [AllSeen]

theorem Plain.kind_seen {marker : Char} {known : String → Bool} {fragment : Fragment}
    {rest : List Char} (plain : Plain marker known fragment rest) :
    fragment.kind.isOpaque = false := by
  cases plain <;> rfl

theorem Lexes.kind_seen {marker : Char} {known : String → Bool} {part : Part}
    {text rest : List Char} {fragments : List Fragment}
    (lexes : Lexes marker known part text fragments rest) :
    ∀ fragment ∈ fragments, fragment.kind.isOpaque = false := by
  induction lexes with
  | plain plain => simpa using plain.kind_seen
  | done | noBranch => simp
  | forBlock | ifBlock | more | elseIf | elseLast =>
    simp_all [or_imp, Fragment.opening, Fragment.closing, Fragment.elseIf, Fragment.elseLast,
      TokenKind.isOpaque]

theorem Fragment.allSeen_lay {name : String} {start : Position} {fragments : List Fragment}
    (seen : ∀ fragment ∈ fragments, fragment.kind.isOpaque = false) :
    AllSeen (lay name start fragments) := by
  induction fragments generalizing start with
  | nil => exact allSeen_nil
  | cons fragment others ih =>
    obtain ⟨first, seen⟩ := List.forall_mem_cons.mp seen
    exact List.forall_mem_cons.mpr ⟨first, ih seen⟩

namespace TwoStages
open Token

theorem allSeen_place {written : List Token} {token : Token} (before : AllSeen written)
    (seen : token.kind.isOpaque = false) : AllSeen (place written token) := by
  have fresh : token.asContent.kind.isOpaque = false := by
    unfold asContent
    split
    · rfl
    · rfl
    · exact seen
  cases written with
  | nil => exact List.forall_mem_cons.mpr ⟨fresh, before⟩
  | cons last earlier =>
    obtain ⟨first, others⟩ := List.forall_mem_cons.mp before
    unfold place
    dsimp only
    split
    · exact List.forall_mem_cons.mpr ⟨first, others⟩
    · exact List.forall_mem_cons.mpr ⟨fresh, before⟩

theorem allSeen_foldl_place {written tokens : List Token} (before : AllSeen written)
    (seen : AllSeen tokens) : AllSeen (tokens.foldl place written) := by
  induction tokens generalizing written with
  | nil => exact before
  | cons token rest ih =>
    obtain ⟨first, others⟩ := List.forall_mem_cons.mp seen
    exact ih (allSeen_place before first) others

theorem keptFrom_subset (before tokens : List Token) :
    ∀ token ∈ keptFrom before tokens, token ∈ tokens := by
  induction tokens generalizing before with
  | nil => nofun
  | cons token rest ih =>
    intro kept member
    unfold keptFrom at member
    split at member
    · exact List.mem_cons_of_mem _ (ih _ kept member)
    · rcases List.mem_cons.mp member with rfl | later
      · exact List.mem_cons_self
      · exact List.mem_cons_of_mem _ (ih _ kept later)

theorem allSeen_optimize {tokens : List Token} (seen : AllSeen tokens) (trim : Bool) :
    AllSeen (optimize tokens trim) := by
  have kept : AllSeen (if trim then keptFrom [] tokens else tokens) := by
    split
    · exact fun token member => seen token (keptFrom_subset [] tokens token member)
    · exact seen
  intro token member
  rw [optimize_merges, mergeAll, List.mem_reverse] at member
  exact allSeen_foldl_place allSeen_nil kept token member

end TwoStages

namespace Handler
variable {σ τ : Type}

end Handler

namespace Listing
variable {σ : Type}

end Listing

-- A compilation through the guarded lexer, with the built-in macros. What comes after the lexer
-- works on whole tokens and has nothing to guard.
def Guarded.compile {σ τ : Type} (config : Config) (handler : Handler σ τ) (source : Source)
    (state : τ) : Except Halt String :=
  match tokenize config.marker source with
  | .error halt => .error halt
  | .ok tokens =>
    let (emitted, _) := handler.parse .builtins source (optimize tokens config.trim) state
    emitted.mapError fun error => .fault (.error error)

namespace Compiler
variable {σ : Type}

end Compiler
end TemplateCompiler
