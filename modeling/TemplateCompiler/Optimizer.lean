import TemplateCompiler.Token.Basic

namespace TemplateCompiler

-- In runes.
def maxMergedLength : Nat := 60

namespace Token

def asContent (token : Token) : Token :=
  match token.kind with
  | .whitespace | .newline => { token with kind := .content }
  | _ => token

-- Code blocks merge on a line of their own, unless the first ends one already.
def separator (first : Token) : String :=
  if first.kind.isCodeBlock ∧ first.text.toList.getLast? ≠ some '\n' then "\n" else ""

def mayMerge (first second : Token) : Bool :=
  first.kind = second.kind ∧ first.kind.isOpaque = false ∧ first.kind ≠ .expression ∧
    first.extension = none ∧ second.extension = none ∧
    first.slice.runeCount + first.separator.length + second.slice.runeCount ≤ maxMergedLength

def merge? (first second : Token) : Option Token :=
  if first.mayMerge second then
    let joined :=
      if first.kind.isCodeBlock then first.slice.joinWith first.separator second.slice
      else first.slice.join second.slice
    match joined with
    | .ok slice => some (.plain first.kind slice)
    | .error _ => none
  else none

end Token

-- `written` holds the output so far, latest first. `held` is used under trim only: a blank run
-- whose fate hangs on the next token that is not opaque, then the opaque tokens seen since.
structure Optimizer where
  written : List Token
  held : List Token
  afterBlock : Bool

namespace Optimizer

def start : Optimizer := ⟨[], [], false⟩

def write (written : List Token) (token : Token) : List Token :=
  match written with
  | [] => [token.asContent]
  | last :: earlier =>
    match last.merge? token.asContent with
    | some merged => merged :: earlier
    | none => token.asContent :: written

def writeHeld (written : List Token) (token : Token) : List Token :=
  if token.kind.isOpaque then token :: written else write written token

def release (state : Optimizer) : Optimizer :=
  { state with written := state.held.foldl writeHeld state.written, held := [] }

def dropBlank (state : Optimizer) : Optimizer :=
  { state with written := state.held.tail.reverse ++ state.written, held := [] }

def append (state : Optimizer) (token : Token) : Optimizer :=
  { state with written := write state.written token, afterBlock := token.kind.isCodeBlock }

def feed (trim : Bool) (state : Optimizer) (token : Token) : Optimizer :=
  if token.kind.isOpaque then
    if state.held.isEmpty then { state with written := token :: state.written }
    else { state with held := state.held ++ [token] }
  else if trim then
    if token.kind = .whitespace then { state.release with held := [token], afterBlock := false }
    else if token.kind = .newline ∧ state.afterBlock then { state with afterBlock := false }
    else if token.kind.isCodeBlock then state.dropBlank.append token
    else state.release.append token
  else state.append token

def finish (state : Optimizer) : List Token := state.release.written.reverse

end Optimizer

def optimize (tokens : List Token) (trim : Bool) : List Token :=
  (tokens.foldl (Optimizer.feed trim) .start).finish

end TemplateCompiler
