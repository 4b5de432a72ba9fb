import TemplateCompiler.Emit.Handler

namespace TemplateCompiler

inductive HandlerCall where
  | begin
  | write (write : Write)
  | finish
deriving DecidableEq

def TokenKind.writtenAs? : TokenKind → Option WriteKind
  | .content | .whitespace | .newline => some .text
  | .globalBlock => some .globalBlock
  | .localBlock => some .localBlock
  | .expression => some .expression
  | .macroCall | .custom _ => none

-- A token, the tokens right behind it that count as handled with it and what was written for them.
structure Visit where
  token : Token
  used : List Token
  writes : List Write

namespace Visit

def tokens (visit : Visit) : List Token := visit.token :: visit.used

end Visit

def visitedTokens (visits : List Visit) : List Token := visits.flatMap Visit.tokens

def visitedWrites (visits : List Visit) : List Write := visits.flatMap Visit.writes

@[simp] theorem visitedTokens_cons (visit : Visit) (others : List Visit) :
    visitedTokens (visit :: others) = visit.tokens ++ visitedTokens others := rfl

@[simp] theorem visitedWrites_cons (visit : Visit) (others : List Visit) :
    visitedWrites (visit :: others) = visit.writes ++ visitedWrites others := rfl

namespace Source

def unknownMacro (source : Source) (token : Token) : TemplateError :=
  let name := token.text
  source.error .parse .unknownMacro token.slice.start s!"no macro named `{name}`"

def unexpectedToken (source : Source) (token : Token) : TemplateError :=
  let kind := token.kind.display
  source.error .parse .unexpectedToken token.slice.start
    s!"{kind} token is not handled by any macro"

end Source

section Steps
variable {σ : Type} (macros : MacroTable σ)

-- A visit that leaves `rest` to the walk: one write of the token itself, or one answer of the macro
-- it names to exactly the tokens after it.
inductive Handled (rest : List Token) : Visit → Prop
  | written {token kind} (direct : token.kind.writtenAs? = some kind) :
      Handled rest ⟨token, [], [⟨kind, token.slice⟩]⟩
  | answered {token entry used writes count} (call : token.kind = .macroCall)
      (found : macros.get? token.text = some entry)
      (answer : entry.parse token (used ++ rest) = ⟨writes, .ok count⟩)
      (left : (used ++ rest).drop count = rest) : Handled rest ⟨token, used, writes⟩

inductive Refused (source : Source) (rest : List Token) (token : Token) :
    List Write → TemplateError → Prop
  | answered {entry writes error} (call : token.kind = .macroCall)
      (found : macros.get? token.text = some entry)
      (answer : entry.parse token rest = ⟨writes, .error error⟩) : Refused source rest token writes error
  | unknown (call : token.kind = .macroCall) (missing : macros.get? token.text = none) :
      Refused source rest token [] (source.unknownMacro token)
  | unexpected {id} (custom : token.kind = .custom id) :
      Refused source rest token [] (source.unexpectedToken token)

end Steps

inductive Ending where
  | complete
  | failed (token : Token) (rest : List Token) (writes : List Write) (error : TemplateError)

namespace Ending

def left : Ending → List Token
  | .complete => []
  | .failed token rest _ _ => token :: rest

def writes : Ending → List Write
  | .complete => []
  | .failed _ _ writes _ => writes

def result : Ending → Except TemplateError Unit
  | .complete => .ok ()
  | .failed _ _ _ error => .error error

def closing : Ending → List HandlerCall
  | .complete => [.finish]
  | .failed .. => []

def Fails {σ : Type} (macros : MacroTable σ) (source : Source) : Ending → Prop
  | .complete => True
  | .failed token rest writes error => Refused macros source rest token writes error

end Ending

-- The visits and the end of a walk over a token stream. Every token is visited once, used up once
-- or left over, in the order of the stream.
structure Delivers {σ : Type} (macros : MacroTable σ) (source : Source) (tokens : List Token)
    (visits : List Visit) (ending : Ending) : Prop where
  tokens : tokens = visitedTokens visits ++ ending.left
  handled : ∀ before visit after, visits = before ++ visit :: after →
    Handled macros (visitedTokens after ++ ending.left) visit
  fails : ending.Fails macros source

def delivered (visits : List Visit) (ending : Ending) : List Write :=
  visitedWrites visits ++ ending.writes

namespace Handler
variable {σ τ : Type} {macros : MacroTable σ} {source : Source} {token : Token}
  {rest tokens : List Token} {visits : List Visit} {ending : Ending}

theorem answer_of_handled {visit : Visit} (source : Source) (handled : Handled macros rest visit) :
    ∃ count, answer macros source visit.token (visit.used ++ rest) = ⟨visit.writes, .ok count⟩ ∧
      (visit.used ++ rest).drop count = rest := by
  cases handled with
  | @written token kind direct =>
    refine ⟨0, ?_, rfl⟩
    unfold answer
    cases same : token.kind with
    | macroCall => simp [same, TokenKind.writtenAs?] at direct
    | custom id => simp [same, TokenKind.writtenAs?] at direct
    | whitespace | newline | content | globalBlock | localBlock | expression =>
      simp only [same, TokenKind.writtenAs?, Option.some.injEq] at direct
      subst direct
      rfl
  | answered call found reply left =>
    refine ⟨_, ?_, left⟩
    simp only [answer, call, found, reply]

theorem answer_of_refused {writes : List Write} {error : TemplateError}
    (refused : Refused macros source rest token writes error) :
    answer macros source token rest = ⟨writes, .error error⟩ := by
  cases refused with
  | answered call found reply => simp only [answer, call, found, reply]
  | unknown call missing =>
    simp only [answer, call, missing]
    rfl
  | unexpected custom =>
    simp only [answer, custom]
    rw [Source.unexpectedToken, custom]

theorem handled_or_refused (macros : MacroTable σ) (source : Source) (token : Token)
    (rest : List Token) :
    (∃ used writes left, rest = used ++ left ∧ Handled macros left ⟨token, used, writes⟩) ∨
      ∃ writes error, Refused macros source rest token writes error := by
  cases same : token.kind with
  | macroCall =>
    cases found : macros.get? token.text with
    | none => exact .inr ⟨_, _, .unknown same found⟩
    | some entry =>
      rcases reply : entry.parse token rest with ⟨writes, error | count⟩
      · exact .inr ⟨_, _, .answered same found reply⟩
      · have split : rest.take count ++ rest.drop count = rest := List.take_append_drop _ _
        refine .inl ⟨rest.take count, writes, rest.drop count, split.symm, ?_⟩
        exact .answered same found (split.symm ▸ reply) (by rw [split])
  | custom id => exact .inr ⟨_, _, .unexpected same⟩
  | whitespace | newline | content | globalBlock | localBlock | expression =>
    exact .inl ⟨[], _, rest, rfl, .written (by rw [same]; rfl)⟩

end Handler

namespace Delivers
variable {σ τ : Type} {macros : MacroTable σ} {source : Source} {tokens : List Token}
  {visits : List Visit} {ending : Ending}

theorem complete : Delivers macros source [] [] .complete :=
  ⟨rfl, by simp, trivial⟩

theorem failed {token : Token} {rest : List Token} {writes : List Write} {error : TemplateError}
    (refused : Refused macros source rest token writes error) :
    Delivers macros source (token :: rest) [] (.failed token rest writes error) :=
  ⟨rfl, by simp, refused⟩

theorem cons {visit : Visit} (handled : Handled macros tokens visit)
    (delivers : Delivers macros source tokens visits ending) :
    Delivers macros source (visit.tokens ++ tokens) (visit :: visits) ending := by
  refine ⟨by rw [visitedTokens_cons, List.append_assoc, ← delivers.tokens], ?_, delivers.fails⟩
  intro before other after same
  cases before with
  | nil =>
    cases same
    rwa [← delivers.tokens]
  | cons first before =>
    cases same
    exact delivers.handled before other after rfl

theorem uncons {visit : Visit} (delivers : Delivers macros source tokens (visit :: visits) ending) :
    ∃ rest, tokens = visit.token :: (visit.used ++ rest) ∧ Handled macros rest visit ∧
      Delivers macros source rest visits ending := by
  refine ⟨visitedTokens visits ++ ending.left, ?_, delivers.handled [] visit visits rfl, rfl, ?_,
    delivers.fails⟩
  · simpa [Visit.tokens] using delivers.tokens
  · intro before other after same
    exact delivers.handled (visit :: before) other after (by rw [same]; rfl)

theorem exist (macros : MacroTable σ) (source : Source) (tokens : List Token) :
    ∃ visits ending, Delivers macros source tokens visits ending := by
  induction size : tokens.length using Nat.strongRecOn generalizing tokens with
  | _ length ih =>
    subst size
    cases tokens with
    | nil => exact ⟨_, _, complete⟩
    | cons token rest =>
      rcases Handler.handled_or_refused macros source token rest with
        ⟨used, writes, left, rfl, handled⟩ | ⟨writes, error, refused⟩
      · have shorter : left.length < (token :: (used ++ left)).length := by
          rw [List.length_cons, List.length_append]
          omega
        obtain ⟨visits, ending, delivers⟩ := ih left.length shorter left rfl
        exact ⟨_, _, delivers.cons handled⟩
      · exact ⟨_, _, failed refused⟩

theorem walk_eq (delivers : Delivers macros source tokens visits ending) (handler : Handler σ τ)
    (state : τ) :
    handler.walk macros source state tokens =
      (ending.result, (delivered visits ending).foldl handler.write state) := by
  induction visits generalizing tokens state with
  | nil =>
    have fails := delivers.fails
    obtain rfl := delivers.tokens
    cases ending with
    | complete => rw [visitedTokens, List.flatMap_nil, Ending.left, List.append_nil, Handler.walk]; rfl
    | failed token rest writes error =>
      change handler.walk macros source state (token :: rest) = _
      rw [Handler.walk]
      simp only [Handler.answer_of_refused fails]
      rfl
  | cons visit others ih =>
    obtain ⟨rest, rfl, handled, further⟩ := delivers.uncons
    obtain ⟨count, reply, left⟩ := Handler.answer_of_handled source handled
    rw [Handler.walk]
    simp only [reply, left, ih further]
    rw [delivered, delivered, visitedWrites_cons, List.append_assoc]
    exact congrArg (Prod.mk _) List.foldl_append.symm

theorem parse_eq (delivers : Delivers macros source tokens visits ending) (handler : Handler σ τ)
    (state : τ) :
    let written := (delivered visits ending).foldl handler.write (handler.begin state)
    handler.parse macros source tokens state =
      match ending.result with
      | .ok () => handler.finish written
      | .error error => (.error error, written) := by
  rw [Handler.parse, delivers.walk_eq]
  cases ending <;> rfl

end Delivers

namespace Handler
variable {σ τ : Type}

def logged (handler : Handler σ τ) : Handler σ (List HandlerCall × τ) where
  macros := handler.macros
  begin state := (state.1 ++ [.begin], handler.begin state.2)
  write state write := (state.1 ++ [.write write], handler.write state.2 write)
  finish state :=
    let finished := handler.finish state.2
    (finished.1, state.1 ++ [.finish], finished.2)

end Handler
end TemplateCompiler
