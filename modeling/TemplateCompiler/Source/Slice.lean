import TemplateCompiler.Source.Position
import TemplateCompiler.Source.Misuse

namespace TemplateCompiler

structure Slice where
  source : String
  text : String
  start : Position
  stop : Position
deriving DecidableEq

inductive JoinError where
  | sourceMismatch (first second : String)
  | notContiguous (stop start : Nat)
  | overlapping (stop start : Nat)
deriving DecidableEq

def JoinError.message : JoinError → String
  | .sourceMismatch first second => s!"cannot join slices of `{first}` and `{second}`"
  | .notContiguous stop start =>
    s!"cannot join slices: first ends at byte {stop}, second starts at byte {start}"
  | .overlapping stop start =>
    s!"cannot join slices: second starts at byte {start}, before first ends at byte {stop}"

namespace Slice

-- The checked way to a slice: a span never ends before it starts.
def make (source text : String) (start stop : Position) : Except Misuse Slice :=
  if start.offset ≤ stop.offset then .ok ⟨source, text, start, stop⟩
  else .error (.invertedSlice start.offset stop.offset)

def withText (slice : Slice) (text : String) : Slice := { slice with text := text }

def runeCount (slice : Slice) : Nat := slice.text.length

def isEmpty (slice : Slice) : Bool := slice.text.isEmpty

def concat (first : Slice) (separator : String) (second : Slice) : Slice :=
  ⟨first.source, first.text ++ separator ++ second.text, first.start, second.stop⟩

-- Contiguous slices: the whole end position of the first is the start position of the second.
def join (first second : Slice) : Except JoinError Slice :=
  if first.source ≠ second.source then .error (.sourceMismatch first.source second.source)
  else if first.stop ≠ second.start then
    .error (.notContiguous first.stop.offset second.start.offset)
  else .ok (first.concat "" second)

-- Slices with a possible gap between them; what lies in the gap is not taken over.
def joinWith (first : Slice) (separator : String) (second : Slice) : Except JoinError Slice :=
  if first.source ≠ second.source then .error (.sourceMismatch first.source second.source)
  else if first.stop.offset > second.start.offset then
    .error (.overlapping first.stop.offset second.start.offset)
  else .ok (first.concat separator second)

def dump (slice : Slice) : String :=
  Text.quoted slice.text ++ "@" ++ slice.source ++ ":" ++ slice.start.display ++ ".." ++
    slice.stop.display

end Slice
end TemplateCompiler
