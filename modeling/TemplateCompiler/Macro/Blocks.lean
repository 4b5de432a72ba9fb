import TemplateCompiler.Macro.Basic
import TemplateCompiler.Text.Blank

namespace TemplateCompiler
open Text

def elseIfPattern : Pattern :=
  [.literal ['}'], .many isBlank, .literal ['e', 'l', 's', 'e'], .several isBlank,
    .literal ['i', 'f'], .wordEdge]

def elsePattern : Pattern :=
  [.literal ['}'], .many isBlank, .literal ['e', 'l', 's', 'e'], .many isBlank, .literal ['{']]

namespace Blocks
variable {σ : Type}

def openBlock (start : Position) (lead : String) : Scan σ Token := do
  let marker ← Scan.marker
  let header ← Scan.readOrFail fun cursor =>
    (cursor.readBlockHeader marker).mapError Fault.error
  Scan.tokenFrom start .localBlock (lead ++ header.text ++ "\x7b")

-- Body of a block, and where its closing marker stands. The marker is passed, the brace after it
-- lies ahead.
def readBranch (openedAt : Nat) : Scan σ (List Token × Position) := do
  let tokens ← Scan.readBody openedAt
  let close ← Scan.cursor
  Scan.skip 1
  return (tokens, close.position)

def closeBlock (start : Position) : Scan σ Token := do
  let _ ← Scan.read (·.consume '}')
  Scan.tokenFrom start .localBlock "\x7d"

-- Header of an `else if` branch: the words as they are written, and the code after them. Without
-- a header these words belong to the text that follows the block.
def elseIfHead? (marker : Char) (cursor : Cursor) : Read (Option String) :=
  match cursor.readPattern? elseIfPattern with
  | none => ⟨none, 0⟩
  | some head =>
    match (cursor.after head).tryBlockHeader? marker with
    | none => ⟨none, 0⟩
    | some header =>
      ⟨some (head.value.text ++ header.value.text ++ "\x7b"), head.length + header.length⟩

-- Words of an `else` branch; they count only with the marker right after the brace.
def elseHead? (marker : Char) (cursor : Cursor) : Read Bool :=
  match cursor.readPattern? elsePattern with
  | none => ⟨false, 0⟩
  | some head =>
    if (cursor.after head).peek = some marker then ⟨true, head.length + 1⟩ else ⟨false, 0⟩

def elseIfBranch (openedAt : Nat) (sofar : List Token × Position) :
    Scan σ (Option (List Token × Position)) := do
  let marker ← Scan.marker
  match ← Scan.read (elseIfHead? marker) with
  | none => return none
  | some opening =>
    let middle ← Scan.tokenFrom sofar.2 .localBlock opening
    let (body, close) ← readBranch openedAt
    return some (sofar.1 ++ middle :: body, close)

def elseBranch (openedAt : Nat) (sofar : List Token × Position) :
    Scan σ (List Token × Position) := do
  let marker ← Scan.marker
  if ← Scan.read (elseHead? marker) then
    let middle ← Scan.tokenFrom sofar.2 .localBlock "\x7d else \x7b"
    let (body, close) ← readBranch openedAt
    return (sofar.1 ++ middle :: body, close)
  else return sofar

def expandFor (call : Slice) : Scan σ (List Token) := do
  let opening ← openBlock call.start call.text
  let (body, close) ← readBranch call.start.offset
  let closing ← closeBlock close
  return opening :: body ++ [closing]

def expandIf (call : Slice) : Scan σ (List Token) := do
  let opening ← openBlock call.start call.text
  let (body, close) ← readBranch call.start.offset
  let branches ← Scan.rounds (elseIfBranch call.start.offset) (opening :: body, close)
  let (tokens, last) ← elseBranch call.start.offset branches
  let closing ← closeBlock last
  return tokens ++ [closing]

end Blocks

namespace Macro
variable {σ : Type}

def forBlock : Macro σ := ⟨"for", Blocks.expandFor, ignoreToken⟩

def ifBlock : Macro σ := ⟨"if", Blocks.expandIf, ignoreToken⟩

end Macro

namespace MacroTable
variable {σ : Type}

def builtins : MacroTable σ := empty.registerAll [.forBlock, .ifBlock]

-- Built-ins, then what the backend brings, then what the caller adds; the last of a name counts.
def resolve (defaults overrides : List (Macro σ)) : MacroTable σ :=
  (builtins.registerAll defaults).registerAll overrides

end MacroTable
end TemplateCompiler
