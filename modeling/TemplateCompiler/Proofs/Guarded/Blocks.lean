import TemplateCompiler.Proofs.Guarded.Scans
import TemplateCompiler.Proofs.Lexing

namespace TemplateCompiler
open Text Code

namespace Guarded

def pass : Guarded Unit := do
  let _ ← advance
  return ()

section Definitions
variable (marker : Char) (readBody : Nat → Guarded (List Token))

def openBlock (start : Nat) (lead : String) : Guarded Token := do
  let header ← readBlockHeader marker
  tokenFrom start .localBlock (lead ++ header.text ++ "\x7b")

def readBranch (openedAt : Nat) : Guarded (List Token × Position) := do
  let tokens ← readBody openedAt
  let close ← get
  pass
  return (tokens, close.position)

def closeBlock (start : Nat) : Guarded Token := do
  let closed ← consume '}'
  if closed then tokenFrom start .localBlock "\x7d" else throw .unbraced

def elseIfHead? : Guarded (Option String) := do
  let words ← readPattern? elseIfPattern
  match words with
  | none => return none
  | some head =>
    let found ← tryBlockHeader? marker
    match found with
    | some header => return some (head.text ++ header.text ++ "\x7b")
    | none =>
      unshift head.text
      return none

def elseHead? : Guarded Bool := do
  let words ← readPattern? elsePattern
  match words with
  | none => return false
  | some head =>
    let opens ← consume marker
    if opens then return true
    else
      unshift head.text
      return false

def elseIfBranch (openedAt : Nat) (sofar : List Token × Position) :
    Guarded (Option (List Token × Position)) := do
  let words ← elseIfHead? marker
  match words with
  | none => return none
  | some opening =>
    let middle ← tokenFrom sofar.2.offset .localBlock opening
    let (body, close) ← readBranch readBody openedAt
    return some (sofar.1 ++ middle :: body, close)

def elseBranch (openedAt : Nat) (sofar : List Token × Position) :
    Guarded (List Token × Position) := do
  let opens ← elseHead? marker
  if opens then
    let middle ← tokenFrom sofar.2.offset .localBlock "\x7d else \x7b"
    let (body, close) ← readBranch readBody openedAt
    return (sofar.1 ++ middle :: body, close)
  else return sofar

def expandFor (call : Slice) : Guarded (List Token) := do
  let opening ← openBlock marker call.start.offset call.text
  let (body, close) ← readBranch readBody call.start.offset
  let closing ← closeBlock close.offset
  return opening :: body ++ [closing]

def expandIf (call : Slice) : Guarded (List Token) := do
  let opening ← openBlock marker call.start.offset call.text
  let (body, close) ← readBranch readBody call.start.offset
  let branches ← loop (elseIfBranch marker readBody call.start.offset) (opening :: body, close)
  let (tokens, last) ← elseBranch marker readBody call.start.offset branches
  let closing ← closeBlock last.offset
  return tokens ++ [closing]

end Definitions

section Heads
variable {source : Source} {cursor : Cursor}

theorem does_elseIfHead? (ready : Ready source cursor) (marker : Char) :
    Does (elseIfHead? marker) cursor (Blocks.elseIfHead? marker cursor) := by
  have words := does_readPattern? ready elseIfPattern
  unfold Does elseIfHead? Blocks.elseIfHead?
  rw [bind_ok words]
  unfold Cursor.readPattern? Cursor.readMatch?
  cases elseIfPattern.length? cursor.rest with
  | none => simp [orNone, Cursor.after]
  | some length =>
    have header := does_tryBlockHeader? (ready.skip length) marker
    simp only [Option.map_some, orNone, Cursor.after, Cursor.take]
    unfold Does at header
    rw [bind_ok header]
    cases (cursor.skip length).tryBlockHeader? marker with
    | some header => simp [orNone, Cursor.after, Cursor.skip_skip]
    | none =>
      have back := unshift_ahead ready length
      simp only [orNone, Cursor.after, Cursor.skip_zero]
      exact bind_ok back

theorem does_elseHead? (ready : Ready source cursor) (marker : Char) :
    Does (elseHead? marker) cursor (Blocks.elseHead? marker cursor) := by
  have words := does_readPattern? ready elsePattern
  unfold Does elseHead? Blocks.elseHead?
  rw [bind_ok words]
  unfold Cursor.readPattern? Cursor.readMatch?
  cases elsePattern.length? cursor.rest with
  | none => simp [orNone, Cursor.after]
  | some length =>
    have opens := does_consume (ready.skip length) marker
    simp only [Option.map_some, orNone, Cursor.after, Cursor.take]
    unfold Does at opens
    rw [bind_ok opens, Cursor.consume]
    by_cases ahead : (cursor.skip length).peek = some marker
    · simp [ahead, Cursor.after, Cursor.skip_skip]
    · have back := unshift_ahead ready length
      simp only [ahead, reduceIte, Cursor.after, Cursor.skip_zero, Bool.false_eq_true]
      exact bind_ok back

end Heads

section Blocks
variable {σ : Type} {bound : Nat} {around : Surroundings σ bound} {source : Source}
  {cursor start : Cursor} {readBody : Nat → Guarded (List Token)} {openedAt : Nat}

end Blocks
end Guarded
end TemplateCompiler
