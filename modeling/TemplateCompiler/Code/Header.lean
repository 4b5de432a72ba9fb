import TemplateCompiler.Code.Quoting

namespace TemplateCompiler.Code

structure Nesting where
  depth : Nat
  quoting : Quoting
deriving DecidableEq

namespace Nesting

def start : Nesting := ⟨0, .plain⟩

def isTop (nesting : Nesting) : Bool := nesting.depth = 0 ∧ nesting.quoting = .plain

-- Every kind of bracket counts, and a closing one never takes the depth below zero.
def feed (nesting : Nesting) (c : Char) : Nesting :=
  let quoting := nesting.quoting.feed c
  if nesting.quoting.isStructural c then
    if c = '(' ∨ c = '[' ∨ c = '{' then ⟨nesting.depth + 1, quoting⟩
    else if c = ')' ∨ c = ']' ∨ c = '}' then ⟨nesting.depth - 1, quoting⟩
    else ⟨nesting.depth, quoting⟩
  else ⟨nesting.depth, quoting⟩

end Nesting

def headerFrom? (marker : Char) (nesting : Nesting) : List Char → Option (List Char)
  | [] => none
  | c :: rest =>
    if c = marker ∧ nesting.quoting.isPlain then none
    else if c = '{' ∧ nesting.isTop ∧ rest.head? = some marker then some []
    else (headerFrom? marker (nesting.feed c) rest).map (c :: ·)

def header? (marker : Char) (text : List Char) : Option (List Char) :=
  headerFrom? marker .start text

end TemplateCompiler.Code
