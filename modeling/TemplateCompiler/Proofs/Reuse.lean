import TemplateCompiler.Proofs.Compilations
import TemplateCompiler.Proofs.Stateless

namespace TemplateCompiler
namespace Compiler
variable {σ τ : Type}

-- What documents leave that are compiled one after another: the memory of the macros and the state
-- of the handler.
def leftBy (compiler : Compiler σ) (handler : Handler σ τ) (documents : List Source) (memory : σ)
    (state : τ) : σ × τ :=
  documents.foldl (fun left source =>
    let compiled := compiler.compile handler source left.1 left.2
    (compiled.memory, compiled.state)) (memory, state)

-- The result of a compilation and what it makes of the listing before it. A text that does not lex
-- changes nothing; a token that fails leaves the records of the document up to it.
inductive Exits (compiler : Compiler σ) (defaults : List (Macro σ)) (source : Source) (memory : σ)
    (before : Listing) : Except Fault String → Listing → Prop
  | unlexed {fault} (failed : compiler.lexed (Listing.handler defaults) source memory = .error fault) :
      Exits compiler defaults source memory before (.error fault) before
  | failed {tokens visits token rest writes error}
      (found : compiler.lexed (Listing.handler defaults) source memory = .ok tokens)
      (delivers : Delivers (.resolve defaults compiler.macros) source
        (optimize tokens compiler.config.trim) visits (.failed token rest writes error)) :
      Exits compiler defaults source memory before (.error (.error error))
        (.ofWrites (delivered visits (.failed token rest writes error)))
  | finished {tokens visits}
      (found : compiler.lexed (Listing.handler defaults) source memory = .ok tokens)
      (delivers : Delivers (.resolve defaults compiler.macros) source
        (optimize tokens compiler.config.trim) visits .complete) :
      Exits compiler defaults source memory before
        ((compiler.format (Listing.ofWrites (delivered visits .complete)).render).mapError .error)
        .empty

variable {compiler : Compiler σ} {defaults : List (Macro σ)} {source : Source}

theorem lexed_eq (stateless : ∀ entry ∈ defaults ++ compiler.macros, entry.Stateless)
    (source : Source) (memory later : σ) :
    compiler.lexed (Listing.handler defaults) source memory =
      compiler.lexed (Listing.handler defaults) source later := by
  obtain ⟨first, second⟩ := List.forall_mem_append.mp stateless
  have table : (MacroTable.resolve defaults compiler.macros).Stateless :=
    MacroTable.stateless_resolve first second
  let lexer : Lexer σ := ⟨compiler.config.marker, .resolve defaults compiler.macros⟩
  have alike : (lexer.tokenize source memory).Alike (lexer.tokenize source later) :=
    Lexer.tokenize_alike table source memory later
  exact alike.value

theorem exits (compiler : Compiler σ) (defaults : List (Macro σ)) (source : Source) (memory : σ)
    (before : Listing) :
    let compiled := compiler.compile (Listing.handler defaults) source memory before
    compiler.Exits defaults source memory before compiled.result compiled.state := by
  intro compiled
  cases found : compiler.lexed (Listing.handler defaults) source memory with
  | error fault =>
    obtain ⟨result, state⟩ := compile_of_error before found
    rw [result, state]
    exact .unlexed found
  | ok tokens =>
    obtain ⟨visits, ending, delivers⟩ := Delivers.exist (.resolve defaults compiler.macros) source
      (optimize tokens compiler.config.trim)
    have written : (delivered visits ending).foldl Listing.record .empty =
        .ofWrites (delivered visits ending) := Listing.foldl_record_empty _
    have ends := compile_of_ok before found delivers
    cases ending with
    | complete =>
      obtain ⟨result, state⟩ : compiled.result = _ ∧ compiled.state = .empty := ends
      rw [result, state]
      exact written ▸ Exits.finished found delivers
    | failed token rest writes error =>
      obtain ⟨result, state⟩ : compiled.result = _ ∧ compiled.state = _ := ends
      rw [result, state]
      exact written ▸ Exits.failed found delivers

-- The listing that a document finds does not matter to its result, nor does what macros remember
-- that remember nothing.
theorem result_fresh (stateless : ∀ entry ∈ defaults ++ compiler.macros, entry.Stateless)
    (memory fresh : σ) (before : Listing) :
    (compiler.compile (Listing.handler defaults) source memory before).result =
      (compiler.compile (Listing.handler defaults) source fresh .empty).result := by
  have same := lexed_eq stateless source memory fresh
  cases found : compiler.lexed (Listing.handler defaults) source memory with
  | error fault =>
    rw [(compile_of_error before found).1, (compile_of_error Listing.empty (same ▸ found)).1]
  | ok tokens =>
    obtain ⟨visits, ending, delivers⟩ := Delivers.exist (.resolve defaults compiler.macros) source
      (optimize tokens compiler.config.trim)
    have used := compile_of_ok before found delivers
    have alone := compile_of_ok Listing.empty (same ▸ found) delivers
    cases ending with
    | complete => exact used.1.trans alone.1.symm
    | failed token rest writes error => exact used.1.trans alone.1.symm

-- Whatever documents a listing was used for before, and however they ended, the next one gets the
-- result that a new listing gives it, and leaves the listing in one of the three ways.
theorem compile_reused (compiler : Compiler σ) (defaults : List (Macro σ))
    (stateless : ∀ entry ∈ defaults ++ compiler.macros, entry.Stateless) (documents : List Source)
    (source : Source) (memory fresh : σ) (listing : Listing) :
    let handler := Listing.handler defaults
    let left := compiler.leftBy handler documents memory listing
    let compiled := compiler.compile handler source left.1 left.2
    compiled.result = (compiler.compile handler source fresh .empty).result ∧
      compiler.Exits defaults source left.1 left.2 compiled.result compiled.state :=
  ⟨result_fresh stateless _ fresh _, exits compiler defaults source _ _⟩

end Compiler

def Macro.emitting (name : String) (token : Slice → Token)
    (parse : Token → List Token → HookAnswer) : Macro Nat where
  name := name
  expand call := do
    let memory ← Scan.memory
    Scan.setMemory (memory + 1)
    return [token call]
  parse := parse

-- Its calls are counted, but nothing is made of the number.
theorem Macro.stateless_emitting (name : String) (token : Slice → Token)
    (parse : Token → List Token → HookAnswer) : (emitting name token parse).Stateless :=
  fun _ _ _ _ _ _ _ _ _ => ⟨rfl, rfl⟩

-- Three ways to fail while the document is written: a token of an unknown macro, one of a custom
-- kind and a hook that fails after a write.
def failingMacros : List (Macro Nat) :=
  [.emitting "stray" (fun call => .plain .macroCall (call.withText "ghost")) Macro.ignoreToken,
    .emitting "cell" (.plain (.custom firstCustomId)) Macro.ignoreToken,
    .emitting "half" (.plain .macroCall) fun token _ =>
      ⟨[⟨.text, token.slice⟩], .error (.handler "no second half")⟩]

def failingDocuments : List Source :=
  ["a◊.stray", "b◊\x7bb", "c◊.cell", "◊^\x7bd\x7dd◊.half"].map fun text => ⟨"page", text.toList⟩

theorem stateless_failingMacros : ∀ entry ∈ failingMacros, entry.Stateless := by
  intro entry member
  simp only [failingMacros, List.mem_cons, List.not_mem_nil, or_false] at member
  rcases member with rfl | rfl | rfl <;> exact Macro.stateless_emitting _ _ _

theorem Compiler.reused_after_failures :
    let compiler : Compiler Nat := ⟨.default, failingMacros, none⟩
    let left := compiler.leftBy (Listing.handler []) failingDocuments 0 .empty
    let compiled := compiler.compile (Listing.handler []) ⟨"page", "e◊x".toList⟩ left.1 left.2
    (∀ entry ∈ failingMacros, entry.Stateless) ∧ left.1 = 3 ∧
      left.2.instructions.map (·.text) = ["d", "d", "half"] ∧
      compiled.result.isOk = true ∧ compiled.state = .empty ∧
      compiled.result =
        (compiler.compile (Listing.handler []) ⟨"page", "e◊x".toList⟩ 0 .empty).result := by
  refine ⟨stateless_failingMacros, by decide +kernel, by decide +kernel, by decide +kernel,
    by decide +kernel, ?_⟩
  exact (compile_reused ⟨.default, failingMacros, none⟩ [] stateless_failingMacros failingDocuments
    ⟨"page", "e◊x".toList⟩ 0 0 .empty).1

end TemplateCompiler
