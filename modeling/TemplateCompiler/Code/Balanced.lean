import TemplateCompiler.Code.Quoting

namespace TemplateCompiler.Code

inductive Verdict (State : Type) where
  | take (next : State)
  | stop
  | refuse (message : String)

inductive Balance where
  | within (depth : Nat) (quoting : Quoting)
  | closed
deriving DecidableEq

namespace Balance

def start : Balance := .within 0 .plain

def step (opening closing : Char) (depth : Nat) (quoting : Quoting) (c : Char) : Balance :=
  if quoting.isStructural c then
    if c = opening then .within (depth + 1) (quoting.feed c)
    else if c = closing then
      if depth - 1 = 0 then .closed else .within (depth - 1) (quoting.feed c)
    else .within depth (quoting.feed c)
  else .within depth (quoting.feed c)

-- Takes runes up to and with the one that closes; the text must not end before it.
def rule (opening closing : Char) : Balance → Option Char → Verdict Balance
  | .closed, _ => .stop
  | .within _ _, none => .refuse s!"missing closing `{closing}`"
  | .within depth quoting, some c => .take (step opening closing depth quoting c)

end Balance
end TemplateCompiler.Code
