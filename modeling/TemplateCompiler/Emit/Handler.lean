import TemplateCompiler.Macro.Basic
import TemplateCompiler.Diagnostic

namespace TemplateCompiler

structure Handler (σ τ : Type) where
  macros : List (Macro σ)
  begin : τ → τ
  write : τ → Write → τ
  finish : τ → Except TemplateError String × τ

namespace Handler
variable {σ τ : Type}

-- What one token asks for, given the tokens after it. Errors lie at the start of the token.
def answer (macros : MacroTable σ) (source : Source) (token : Token) (rest : List Token) :
    HookAnswer :=
  match token.kind with
  | .content | .whitespace | .newline => ⟨[⟨.text, token.slice⟩], .ok 0⟩
  | .globalBlock => ⟨[⟨.globalBlock, token.slice⟩], .ok 0⟩
  | .localBlock => ⟨[⟨.localBlock, token.slice⟩], .ok 0⟩
  | .expression => ⟨[⟨.expression, token.slice⟩], .ok 0⟩
  | .macroCall =>
    match macros.get? token.text with
    | some found => found.parse token rest
    | none =>
      let name := token.text
      ⟨[], .error (source.error .parse .unknownMacro token.slice.start
        s!"no macro named `{name}`")⟩
  | .custom _ =>
    let kind := token.kind.display
    ⟨[], .error (source.error .parse .unexpectedToken token.slice.start
      s!"{kind} token is not handled by any macro")⟩

def walk (handler : Handler σ τ) (macros : MacroTable σ) (source : Source) (state : τ) :
    List Token → Except TemplateError Unit × τ
  | [] => (.ok (), state)
  | token :: rest =>
    let reply := answer macros source token rest
    let written := reply.writes.foldl handler.write state
    match reply.used with
    | .error error => (.error error, written)
    | .ok used => walk handler macros source written (rest.drop used)
termination_by tokens => tokens.length
decreasing_by simp only [List.length_drop, List.length_cons]; omega

def parse (handler : Handler σ τ) (macros : MacroTable σ) (source : Source)
    (tokens : List Token) (state : τ) : Except TemplateError String × τ :=
  match handler.walk macros source (handler.begin state) tokens with
  | (.error error, state) => (.error error, state)
  | (.ok (), state) => handler.finish state

end Handler
end TemplateCompiler
