import TemplateCompiler.Proofs.Delivery
import TemplateCompiler.Proofs.Safety

namespace TemplateCompiler

def Write.instruction (write : Write) : Instruction :=
  ⟨write.slice.start.line, write.kind, write.slice.text⟩

namespace Listing

def isGlobal (write : Write) : Bool := write.kind = .globalBlock

def ofWrites (writes : List Write) : Listing where
  globals := (writes.filter isGlobal).map Write.instruction
  body := (writes.filter (!isGlobal ·)).map Write.instruction

theorem foldl_record (listing : Listing) (writes : List Write) :
    writes.foldl record listing =
      ⟨listing.globals ++ (ofWrites writes).globals, listing.body ++ (ofWrites writes).body⟩ := by
  induction writes generalizing listing with
  | nil => simp [ofWrites]
  | cons write others ih =>
    rw [List.foldl_cons, ih]
    by_cases hoisted : write.kind = .globalBlock
    · have first : isGlobal write = true := by simpa [isGlobal] using hoisted
      simp [record, hoisted, ofWrites, first, Write.instruction]
    · have later : isGlobal write = false := by simpa [isGlobal] using hoisted
      simp [record, hoisted, ofWrites, later, Write.instruction]

theorem foldl_record_empty (writes : List Write) : writes.foldl record .empty = ofWrites writes := by
  rw [foldl_record]
  rfl

theorem instructions_ofWrites (writes : List Write) : (ofWrites writes).instructions =
    (writes.filter isGlobal ++ writes.filter (!isGlobal ·)).map Write.instruction := by
  rw [List.map_append]
  rfl

theorem perm_instructions_ofWrites (writes : List Write) :
    (ofWrites writes).instructions.Perm (writes.map Write.instruction) := by
  rw [instructions_ofWrites]
  exact (List.filter_append_perm isGlobal writes).map _

end Listing

namespace Token

def write (token : Token) : Write := ⟨(token.kind.writtenAs?).getD .text, token.slice⟩

def visit (token : Token) : Visit := ⟨token, [], [token.write]⟩

theorem writtenAs?_of_seen {token : Token} (seen : token.kind.isOpaque = false) :
    token.kind.writtenAs? = some token.write.kind := by
  cases kind : token.kind <;> simp_all [TokenKind.isOpaque, write, TokenKind.writtenAs?]

end Token

theorem delivered_visits (tokens : List Token) :
    delivered (tokens.map Token.visit) .complete = tokens.map Token.write := by
  rw [delivered, visitedWrites, List.flatMap_map, Ending.writes, List.append_nil]
  exact List.map_eq_flatMap.symm

theorem Delivers.of_seen {σ : Type} (macros : MacroTable σ) (source : Source) {tokens : List Token}
    (seen : AllSeen tokens) :
    Delivers macros source tokens (tokens.map Token.visit) .complete := by
  induction tokens with
  | nil => exact .complete
  | cons token rest ih =>
    obtain ⟨first, others⟩ := List.forall_mem_cons.mp seen
    exact (ih others).cons (.written (Token.writtenAs?_of_seen first))

def Handler.recorder {σ : Type} : Handler σ (List Write) where
  macros := []
  begin _ := []
  write kept write := kept ++ [write]
  finish kept := (.ok "", kept)

theorem Handler.foldl_recorder {σ : Type} (kept writes : List Write) :
    writes.foldl (recorder : Handler σ _).write kept = kept ++ writes := by
  induction writes generalizing kept with
  | nil => exact (List.append_nil kept).symm
  | cons write others ih => exact (ih _).trans (List.append_cons ..).symm

namespace Compiler
variable {σ τ : Type} {compiler : Compiler σ} {handler : Handler σ τ} {source : Source}
  {memory : σ}

def lexed (compiler : Compiler σ) (handler : Handler σ τ) (source : Source) (memory : σ) :
    Except Fault (List Token) :=
  (Lexer.tokenize ⟨compiler.config.marker, .resolve handler.macros compiler.macros⟩ source
    memory).value

theorem compile_of_error {fault : Fault} (state : τ)
    (failed : compiler.lexed handler source memory = .error fault) :
    (compiler.compile handler source memory state).result = .error fault ∧
      (compiler.compile handler source memory state).state = state := by
  unfold lexed at failed
  simp only [compile, failed, and_self]

theorem compile_of_ok {tokens : List Token} {visits : List Visit} {ending : Ending} (state : τ)
    (found : compiler.lexed handler source memory = .ok tokens)
    (delivers : Delivers (.resolve handler.macros compiler.macros) source
      (optimize tokens compiler.config.trim) visits ending) :
    let written := (delivered visits ending).foldl handler.write (handler.begin state)
    let compiled := compiler.compile handler source memory state
    match ending.result with
    | .error error => compiled.result = .error (.error error) ∧ compiled.state = written
    | .ok () =>
      compiled.result = ((handler.finish written).1.bind compiler.format).mapError .error ∧
        compiled.state = (handler.finish written).2 := by
  unfold lexed at found
  simp only [compile, found, delivers.parse_eq]
  cases ending <;> exact ⟨rfl, rfl⟩

-- A compiler without macros hands these writes to every handler that brings none, and finishes it.
def Hands (compiler : Compiler σ) (source : Source) (memory : σ) (writes : List Write) : Prop :=
  ∀ (τ : Type) (handler : Handler σ τ) (state : τ), handler.macros = [] →
    let finished := handler.finish (writes.foldl handler.write (handler.begin state))
    (compiler.compile handler source memory state).result =
        (finished.1.bind compiler.format).mapError .error ∧
      (compiler.compile handler source memory state).state = finished.2

theorem Hands.unique {first second : List Write} (one : compiler.Hands source memory first)
    (other : compiler.Hands source memory second) : first = second := by
  have left := (one _ Handler.recorder [] rfl).2
  have right := (other _ Handler.recorder [] rfl).2
  calc
    first = first.foldl (Handler.recorder : Handler σ _).write [] :=
      (Handler.foldl_recorder [] first).symm
    _ = second.foldl (Handler.recorder : Handler σ _).write [] := left.symm.trans right
    _ = second := Handler.foldl_recorder [] second

theorem Hands.listed {writes : List Write} (hands : compiler.Hands source memory writes)
    (listing : Listing) :
    (compiler.compile (Listing.handler []) source memory listing).result =
      (compiler.format (Listing.ofWrites writes).render).mapError .error := by
  have kept : writes.foldl Listing.record .empty = .ofWrites writes :=
    Listing.foldl_record_empty writes
  have ends := (hands _ (Listing.handler []) listing rfl).1
  exact kept ▸ ends

theorem hands_of_tokenize {config : Config} {tokens : List Token}
    (found : (Lexer.tokenize ⟨config.marker, .builtins⟩ source memory).value = .ok tokens) :
    (new config).Hands source memory ((optimize tokens config.trim).map Token.write) := by
  intro τ handler state bare
  have resolved : (MacroTable.resolve handler.macros (new config : Compiler σ).macros) =
      .builtins := by
    rw [bare]
    rfl
  have lexes : (new config).lexed handler source memory = .ok tokens := by
    rw [lexed, resolved]
    exact found
  have seen : AllSeen tokens := by
    obtain ⟨fragments, follows, rfl⟩ := Lexer.tokenize_follows MacroTable.blocksOnly_builtins found
    exact Fragment.allSeen_lay follows.kind_seen
  have delivers := Delivers.of_seen (.resolve handler.macros (new config : Compiler σ).macros)
    source (TwoStages.allSeen_optimize seen config.trim)
  have compiled := compile_of_ok state lexes delivers
  rwa [delivered_visits] at compiled

end Compiler
end TemplateCompiler
