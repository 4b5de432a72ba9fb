import TemplateCompiler.Proofs.Guarded.Blocks

namespace TemplateCompiler
open Text Code

namespace Guarded

section Definitions
variable (marker : Char) (readBody : Nat → Guarded (List Token))

def verbatim (kind : TokenKind) (start stop : Nat) : Guarded (List Token) := do
  let slice ← slice start stop
  return [.plain kind slice]

def spanned (start : Nat) (kind : TokenKind) (text : String) : Guarded (List Token) := do
  let token ← tokenFrom start kind text
  return [token]

def balanced (start : Nat) (kind : TokenKind) (opening closing : Char) (keep : Bool) :
    Guarded (List Token) := do
  let code ← readBalanced opening closing keep
  spanned start kind (String.ofList code)

def expansion? (name : String) : Option (Slice → Guarded (List Token)) :=
  if name = "for" then some (expandFor marker readBody)
  else if name = "if" then some (expandIf marker readBody)
  else none

def invoke (start : Nat) (name : Slice) : Guarded (List Token) := do
  let cursor ← get
  match expansion? marker readBody name.text with
  | none => verbatim .content start cursor.offset
  | some expand =>
    let call ← sliceWithText start cursor.offset name.text
    expand call

def escaped (start behind : Nat) : Guarded (List Token) := do
  pass
  let covered ← slice start behind
  spanned start .content covered.text

def dotted (start behind : Nat) : Guarded (List Token) := do
  pass
  let found ← readIdentifier?
  match found with
  | some name => invoke marker readBody start name
  | none =>
    seek behind
    verbatim .content start behind

def named (start : Nat) : Guarded (List Token) := do
  let found ← readIdentifier?
  spanned start .expression ((found.map (·.text)).getD "")

def construct (start behind : Nat) : List Char → Guarded (List Token)
  | [] => verbatim .content start behind
  | c :: rest =>
    if c = marker then escaped start behind
    else if c = '{' then balanced start .localBlock '{' '}' false
    else if c = '^' ∧ rest.head? = some '{' then do
      pass
      balanced start .globalBlock '{' '}' false
    else if c = '(' then balanced start .expression '(' ')' true
    else if c = '.' then dotted marker readBody start behind
    else if isIdentifierStart c then named start
    else verbatim .content start behind

def item (c : Char) : Guarded (List Token) := do
  let start ← get
  if c = marker then
    pass
    let behind ← get
    construct marker readBody start.offset behind.offset behind.rest
  else if isPadding c then
    let run ← readWhile isPadding
    return [.plain .whitespace run]
  else if c = '\n' then
    pass
    verbatim .newline start.offset (start.offset + 1)
  else
    let run ← readTextRun marker
    return [.plain .content run]

def next : Guarded (Option (List Token)) := do
  let cursor ← get
  match cursor.peek with
  | none => return none
  | some c =>
    let tokens ← item marker readBody c
    return some tokens

def textRound (tokens : List Token) : Guarded (Option (List Token)) := do
  let found ← next marker readBody
  return found.map (tokens ++ ·)

def bodyRound (openedAt : Nat) (tokens : List Token) : Guarded (Option (List Token)) := do
  let cursor ← get
  if cursor.atBodyClose marker then return none
  else
    let found ← next marker readBody
    match found with
    | some added => return some (tokens ++ added)
    | none =>
      fail openedAt .unterminatedBody s!"missing `{marker}\x7d` to close the block"

end Definitions

def readBody (marker : Char) (openedAt : Nat) (cursor : Cursor) :
    Except Halt (List Token × Cursor) :=
  let inner (openedAt : Nat) (later : Cursor) : Except Halt (List Token × Cursor) :=
    if _further : later.rest.length < cursor.rest.length then readBody marker openedAt later
    else .error .unending
  loop (bodyRound marker inner openedAt) [] cursor
termination_by cursor.rest.length

def tokenize (marker : Char) (source : Source) : Except Halt (List Token) :=
  (loop (textRound marker (readBody marker)) [] (.ofSource source)).map (·.1)

section Items
variable {σ : Type} {source : Source} {marker : Char} {start cursor : Cursor} {memory : σ}
  {readBody : (cursor : Cursor) → cursor.rest.length ≤ (start.skip 1).rest.length → σ → BodyRun σ}
  {bodies : Nat → Guarded (List Token)}

section Constructs
variable {after : List Char}

end Constructs

end Items

section Runs
variable {σ : Type} {source : Source} {marker : Char} {cursor : Cursor} {memory : σ}
  {openedAt : Nat} {bodies : Nat → Guarded (List Token)}

-- A guarded body against what the lexer reads of it, with the tokens read before.
def BodyAgrees (source : Source) (marker : Char) (openedAt : Nat) (cursor : Cursor)
    (tokens : List Token) (run : Except Halt (List Token × Cursor)) (body : BodyRun σ) : Prop :=
  match body.stop with
  | .closed => run = .ok (tokens ++ body.tokens, cursor.skip body.length) ∧
      (cursor.skip body.length).atBodyClose marker = true
  | .failed fault => run = .error (.fault fault) ∧ source.Locates fault
  | .ended => run = .error (.fault (.error (source.errorAt .tokenizer .unterminatedBody openedAt
      s!"missing `{marker}\x7d` to close the block")))

theorem BodyAgrees.after_skip {tokens added : List Token} {count : Nat} {body : BodyRun σ}
    {run : Except Halt (List Token × Cursor)}
    (agrees : BodyAgrees source marker openedAt (cursor.skip count) (tokens ++ added) run body) :
    BodyAgrees source marker openedAt cursor tokens run
      ⟨added ++ body.tokens, body.stop, count + body.length, body.memory⟩ := by
  obtain ⟨later, stop, length, memory⟩ := body
  cases stop with
  | closed => simpa [BodyAgrees, Cursor.skip_skip] using agrees
  | ended => exact agrees
  | failed fault => exact agrees

theorem BodyAgrees.settled (ready : Ready source cursor) (opened : source.IsBoundary openedAt)
    {bound : Nat} {around : Surroundings σ bound} {within : cursor.rest.length ≤ bound}
    {run : Except Halt (List Token × Cursor)}
    (agrees : BodyAgrees source around.marker openedAt cursor [] run
      (around.readBody cursor within memory)) :
    Agrees source cursor (fun _ later => later.atBodyClose around.marker = true) run
      (Scan.readBody openedAt bound around cursor within memory).result := by
  unfold Scan.readBody BodyRun.settle
  generalize around.readBody cursor within memory = body at agrees ⊢
  obtain ⟨tokens, stop, length, memory⟩ := body
  cases stop with
  | closed => exact agrees
  | failed fault => exact agrees
  | ended =>
    have placed := (ready.skip length).canonical.truePositions.placed openedAt .unterminatedBody
      s!"missing `{around.marker}\x7d` to close the block" opened
    simp only [placed]
    exact ⟨agrees, .unterminatedBody, by simp, openedAt, _, opened, rfl⟩

end Runs
end Guarded
end TemplateCompiler
