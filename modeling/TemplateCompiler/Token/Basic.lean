import TemplateCompiler.Source.Slice

namespace TemplateCompiler

-- Kinds that macros register have numbers from `firstCustomId` on; lower ones are built in.
def firstCustomId : Nat := 1000

inductive TokenKind where
  | whitespace
  | newline
  | content
  | globalBlock
  | localBlock
  | expression
  | macroCall
  | custom (id : Nat)
deriving DecidableEq

namespace TokenKind

def id : TokenKind → Nat
  | .whitespace => 0
  | .newline => 1
  | .content => 2
  | .globalBlock => 3
  | .localBlock => 4
  | .expression => 5
  | .macroCall => 6
  | .custom id => id

def isCodeBlock : TokenKind → Bool
  | .globalBlock | .localBlock => true
  | _ => false

-- Opaque tokens mean something to macros only.
def isOpaque : TokenKind → Bool
  | .macroCall | .custom _ => true
  | _ => false

def display : TokenKind → String
  | .whitespace => "whitespace"
  | .newline => "newline"
  | .content => "content"
  | .globalBlock => "global code block"
  | .localBlock => "local code block"
  | .expression => "local expression"
  | .macroCall => "macro"
  | .custom id => s!"custom token #{id}"

def dump : TokenKind → String
  | .whitespace => "Whitespace"
  | .newline => "Newline"
  | .content => "Content"
  | .globalBlock => "GlobalCodeBlock"
  | .localBlock => "LocalCodeBlock"
  | .expression => "LocalExpression"
  | .macroCall => "Macro"
  | .custom id => s!"Custom(CustomTokenType({id}))"

end TokenKind

-- A payload for the macro that made it. Payloads are told apart by their name; what a dump shows
-- is the description, or else the payload's own form.
structure Extension where
  name : String
  description : Option String
  form : String
deriving DecidableEq

structure Token where
  kind : TokenKind
  slice : Slice
  extension : Option Extension
deriving DecidableEq

namespace Token

def plain (kind : TokenKind) (slice : Slice) : Token := ⟨kind, slice, none⟩

def text (token : Token) : String := token.slice.text

def dump (token : Token) : String :=
  let shown := token.kind.dump ++ "(" ++ token.slice.dump ++ ")"
  match token.extension with
  | none => shown
  | some extension => shown ++ " [" ++ extension.description.getD extension.form ++ "]"

end Token
end TemplateCompiler
