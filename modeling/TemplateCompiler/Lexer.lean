import TemplateCompiler.Macro.Basic

namespace TemplateCompiler
open Text Code

-- Outside the marker a template is made of blank runs, newlines and literal text. At the marker the
-- next rune tells the construct, and its token spans all of it:
--   marker marker          the marker as text
--   marker { code }        local code block
--   marker ^{ code }       global code block
--   marker ( code )        local expression, parentheses kept
--   marker . name          whatever the macro of that name makes of the text after it
--   marker name            local expression
--   marker, anything else  the marker as text
structure Lexer (σ : Type) where
  marker : Char
  macros : MacroTable σ

def isPadding (c : Char) : Bool := c = ' ' ∨ c = '\t'

namespace Lexer
variable {σ : Type}

-- An item always takes its first rune; `length` counts the runes that it takes after that one.
abbrev Item (σ : Type) := Outcome σ (List Token)

def single (kind : TokenKind) (slice : Slice) (length : Nat) (memory : σ) : Item σ :=
  ⟨.ok [.plain kind slice], length, memory⟩

def spanning (start : Cursor) (kind : TokenKind) (text : List Char) (length : Nat) (memory : σ) :
    Item σ :=
  single kind (start.spanTo (start.skip (length + 1)) text) length memory

-- Code between delimiters, with the cursor `ahead` runes after the marker on the opening one.
def balancedItem (start : Cursor) (ahead : Nat) (kind : TokenKind) (opening closing : Char)
    (keep : Bool) (memory : σ) : Item σ :=
  match (start.skip (ahead + 1)).readBalanced opening closing keep with
  | .error fault => ⟨.error fault, ahead, memory⟩
  | .ok code => spanning start kind code.value (ahead + code.length) memory

def callItem (lexer : Lexer σ) (start : Cursor) (name : List Char)
    (readBody : (cursor : Cursor) → cursor.rest.length ≤ (start.skip 1).rest.length → σ →
      BodyRun σ) (memory : σ) : Item σ :=
  let length := name.length + 1
  match lexer.macros.get? (String.ofList name) with
  | none => spanning start .content (start.rest.take (length + 1)) length memory
  | some found =>
    let within : (start.skip (length + 1)).rest.length ≤ (start.skip 1).rest.length := by
      rw [Nat.add_comm, ← Cursor.skip_skip]
      exact Cursor.skip_within (Nat.le_refl _) length
    let call := start.spanTo (start.skip (length + 1)) name
    let outcome := found.expand call _ ⟨lexer.marker, readBody⟩ (start.skip (length + 1)) within
      memory
    ⟨outcome.value, length + outcome.length, outcome.memory⟩

def markedItem (lexer : Lexer σ) (start : Cursor)
    (readBody : (cursor : Cursor) → cursor.rest.length ≤ (start.skip 1).rest.length → σ →
      BodyRun σ) (memory : σ) (after : List Char) : Item σ :=
  match after with
  | [] => spanning start .content [lexer.marker] 0 memory
  | c :: rest =>
    if c = lexer.marker then spanning start .content [lexer.marker] 1 memory
    else if c = '{' then balancedItem start 0 .localBlock '{' '}' false memory
    else if c = '^' ∧ rest.head? = some '{' then
      balancedItem start 1 .globalBlock '{' '}' false memory
    else if c = '(' then balancedItem start 0 .expression '(' ')' true memory
    else if c = '.' then
      match identifier? rest with
      | some name => lexer.callItem start name readBody memory
      | none => spanning start .content [lexer.marker] 0 memory
    else
      match identifier? (c :: rest) with
      | some name => spanning start .expression name name.length memory
      | none => spanning start .content [lexer.marker] 0 memory

-- The item that starts at a cursor. The marker is looked for first, so a marker that is a blank or
-- a newline is a marker.
def item (lexer : Lexer σ) (start : Cursor)
    (readBody : (cursor : Cursor) → cursor.rest.length ≤ (start.skip 1).rest.length → σ →
      BodyRun σ) (memory : σ) : Item σ :=
  match start.rest with
  | [] => ⟨.ok [], 0, memory⟩
  | c :: rest =>
    if c = lexer.marker then lexer.markedItem start readBody memory rest
    else if isPadding c then
      let run := start.readWhile isPadding
      single .whitespace run.value (run.length - 1) memory
    else if c = '\n' then single .newline (start.ahead 1) 0 memory
    else
      let run := start.readTextRun lexer.marker
      single .content run.value (run.length - 1) memory

def readBody (lexer : Lexer σ) (cursor : Cursor) (memory : σ) : BodyRun σ :=
  if cursor.atBodyClose lexer.marker then ⟨[], .closed, 0, memory⟩
  else if _ahead : cursor.rest = [] then ⟨[], .ended, 0, memory⟩
  else
    let first := lexer.item cursor (fun later _ memory => lexer.readBody later memory) memory
    match first.value with
    | .error fault => ⟨[], .failed fault, first.length + 1, first.memory⟩
    | .ok tokens =>
      let others := lexer.readBody (cursor.skip (first.length + 1)) first.memory
      ⟨tokens ++ others.tokens, others.stop, first.length + 1 + others.length, others.memory⟩
termination_by cursor.rest.length
decreasing_by
  · exact Nat.lt_of_le_of_lt ‹_› (cursor.skip_shortens 0 _ahead)
  · exact cursor.skip_shortens _ _ahead

def next (lexer : Lexer σ) (cursor : Cursor) (memory : σ) : Option (Outcome σ (List Token)) :=
  if cursor.rest = [] then none
  else
    let first := lexer.item cursor (fun later _ memory => lexer.readBody later memory) memory
    some ⟨first.value, first.length + 1, first.memory⟩

def readAll (lexer : Lexer σ) (cursor : Cursor) (memory : σ) : Outcome σ (List Token) :=
  if _ahead : cursor.rest = [] then ⟨.ok [], 0, memory⟩
  else
    let first := lexer.item cursor (fun later _ memory => lexer.readBody later memory) memory
    match first.value with
    | .error fault => ⟨.error fault, first.length + 1, first.memory⟩
    | .ok tokens =>
      let others := lexer.readAll (cursor.skip (first.length + 1)) first.memory
      ⟨others.value.map (tokens ++ ·), first.length + 1 + others.length, others.memory⟩
termination_by cursor.rest.length
decreasing_by exact cursor.skip_shortens _ _ahead

def tokenize (lexer : Lexer σ) (source : Source) (memory : σ) : Outcome σ (List Token) :=
  lexer.readAll (.ofSource source) memory

end Lexer
end TemplateCompiler
