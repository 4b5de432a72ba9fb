import TemplateCompiler.Cursor.Read
import TemplateCompiler.Token.Basic

namespace TemplateCompiler

structure Outcome (σ α : Type) where
  value : Except Fault α
  length : Nat
  memory : σ

inductive BodyStop where
  | closed
  | ended
  | failed (fault : Fault)

-- A body as far as it was read: the tokens up to the closing marker, to the end of the text or to
-- the construct that failed.
structure BodyRun (σ : Type) where
  tokens : List Token
  stop : BodyStop
  length : Nat
  memory : σ

-- A body that does not close is the fault of the construct that opened it.
def BodyRun.settle {σ : Type} (run : BodyRun σ) (cursor : Cursor) (marker : Char)
    (openedAt : Nat) : Except Fault Unit :=
  match run.stop with
  | .closed => .ok ()
  | .failed fault => .error fault
  | .ended =>
    match (cursor.skip run.length).errorAt openedAt .unterminatedBody
        s!"missing `{marker}\x7d` to close the block" with
    | .ok error => .error (.error error)
    | .error misuse => .error (.misuse misuse)

-- What a scan finds around it. Bodies can be read wherever at most `bound` runes are left.
structure Surroundings (σ : Type) (bound : Nat) where
  marker : Char
  readBody : (cursor : Cursor) → cursor.rest.length ≤ bound → σ → BodyRun σ

def Scan (σ α : Type) : Type :=
  (bound : Nat) → Surroundings σ bound → (cursor : Cursor) → cursor.rest.length ≤ bound → σ →
    Outcome σ α

theorem Cursor.skip_within {cursor : Cursor} {bound : Nat} (within : cursor.rest.length ≤ bound)
    (count : Nat) : (cursor.skip count).rest.length ≤ bound := by
  simp only [Cursor.rest_skip, List.length_drop]
  omega

namespace Scan
variable {σ α β : Type}

def done (value : α) : Scan σ α := fun _ _ _ _ memory => ⟨.ok value, 0, memory⟩

def andThen (first : Scan σ α) (next : α → Scan σ β) : Scan σ β :=
  fun bound around cursor within memory =>
    let left := first bound around cursor within memory
    match left.value with
    | .error fault => ⟨.error fault, left.length, left.memory⟩
    | .ok value =>
      let right := next value bound around (cursor.skip left.length)
        (Cursor.skip_within within left.length) left.memory
      ⟨right.value, left.length + right.length, right.memory⟩

instance : Monad (Scan σ) where
  pure := done
  bind := andThen

def fail (fault : Fault) : Scan σ α := fun _ _ _ _ memory => ⟨.error fault, 0, memory⟩

def marker : Scan σ Char := fun _ around _ _ memory => ⟨.ok around.marker, 0, memory⟩

def cursor : Scan σ Cursor := fun _ _ cursor _ memory => ⟨.ok cursor, 0, memory⟩

def memory : Scan σ σ := fun _ _ _ _ memory => ⟨.ok memory, 0, memory⟩

def setMemory (memory : σ) : Scan σ Unit := fun _ _ _ _ _ => ⟨.ok (), 0, memory⟩

def read (reading : Cursor → Read α) : Scan σ α := fun _ _ cursor _ memory =>
  let found := reading cursor
  ⟨.ok found.value, found.length, memory⟩

def readOrFail (reading : Cursor → Except Fault (Read α)) : Scan σ α := fun _ _ cursor _ memory =>
  match reading cursor with
  | .ok found => ⟨.ok found.value, found.length, memory⟩
  | .error fault => ⟨.error fault, 0, memory⟩

def skip (count : Nat) : Scan σ Unit := read fun _ => ⟨(), count⟩

def readBody (openedAt : Nat) : Scan σ (List Token) := fun _ around cursor within memory =>
  let run := around.readBody cursor within memory
  match run.settle cursor around.marker openedAt with
  | .ok () => ⟨.ok run.tokens, run.length, run.memory⟩
  | .error fault => ⟨.error fault, run.length, run.memory⟩

def tokenFrom (start : Position) (kind : TokenKind) (text : String) : Scan σ Token :=
  fun _ _ cursor _ memory =>
    ⟨.ok (.plain kind ⟨cursor.name, text, start, cursor.position⟩), 0, memory⟩

-- Rounds of a scan, each starting from the state that the one before it left, until a round
-- answers none or takes no text.
def roundsFrom (round : α → Scan σ (Option α)) (state : α) (bound : Nat)
    (around : Surroundings σ bound) (cursor : Cursor) (within : cursor.rest.length ≤ bound)
    (memory : σ) : Outcome σ α :=
  let first := round state bound around cursor within memory
  match first.value with
  | .error fault => ⟨.error fault, first.length, first.memory⟩
  | .ok none => ⟨.ok state, first.length, first.memory⟩
  | .ok (some next) =>
    if _shorter : (cursor.skip first.length).rest.length < cursor.rest.length then
      let others := roundsFrom round next bound around (cursor.skip first.length)
        (Cursor.skip_within within first.length) first.memory
      ⟨others.value, first.length + others.length, others.memory⟩
    else ⟨.ok next, first.length, first.memory⟩
termination_by cursor.rest.length
decreasing_by exact _shorter

def rounds (round : α → Scan σ (Option α)) (state : α) : Scan σ α := roundsFrom round state

end Scan
end TemplateCompiler
