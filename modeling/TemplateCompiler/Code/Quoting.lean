namespace TemplateCompiler.Code

def backtick : Char := '\x60'

inductive Quoting where
  | plain
  | quoted
  | escaped
  | raw
deriving DecidableEq

namespace Quoting

-- Between `quoted` and `escaped` only the backslash makes a difference: an escaped rune never
-- closes the span.
def feed : Quoting → Char → Quoting
  | .plain, c => if c = backtick then .raw else if c = '"' then .quoted else .plain
  | .quoted, c => if c = '\\' then .escaped else if c = '"' then .plain else .quoted
  | .escaped, _ => .quoted
  | .raw, c => if c = backtick then .plain else .raw

-- A rune outside every span that opens none.
def isStructural (quoting : Quoting) (c : Char) : Bool :=
  quoting = .plain ∧ c ≠ backtick ∧ c ≠ '"'

def isPlain (quoting : Quoting) : Bool := quoting = .plain

end Quoting
end TemplateCompiler.Code
