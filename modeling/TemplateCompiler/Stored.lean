import TemplateCompiler.Compiler

namespace TemplateCompiler

-- Numbers other than natural ones are only known to be such.
inductive Stored where
  | null
  | bool (value : Bool)
  | natural (value : Nat)
  | otherNumber
  | text (value : String)
  | row (values : List Stored)
  | fields (values : List (String × Stored))
deriving Inhabited

namespace Stored

def asBool? : Stored → Option Bool
  | .bool value => some value
  | _ => none

def asNatural? (limit : Nat) : Stored → Option Nat
  | .natural value => if value < limit then some value else none
  | _ => none

def asText? : Stored → Option String
  | .text value => some value
  | _ => none

def asRune? : Stored → Option Char
  | .text value =>
    match value.toList with
    | [c] => some c
    | _ => none
  | _ => none

-- The fields of a record in the order of `names`, none where one is missing. A row has to give
-- all fields unless `partly` lets it stop early, and never more.
def record? (names : List String) (partly : Bool) : Stored → Option (List (Option Stored))
  | .fields values => some (names.map fun name => List.lookup name values)
  | .row values =>
    if values.length = names.length ∨ (partly ∧ values.length < names.length) then
      some (names.zipIdx.map fun name => values[name.2]?)
    else none
  | _ => none

-- A field that may be missing: absent it has the default, present it has to be readable.
def fieldOr? {α : Type} (default : α) (read? : Stored → Option α) : Option Stored → Option α
  | none => some default
  | some value => read? value

end Stored

-- Offsets are 64 bits wide, lines, columns and custom numbers 32.
def offsetLimit : Nat := 0x10000000000000000

def countLimit : Nat := 0x100000000

namespace Config

def read? (stored : Stored) : Option Config :=
  match stored.record? ["marker", "trim_spaces"] true with
  | some [marker, trim] => do
    let marker ← Stored.fieldOr? default.marker Stored.asRune? marker
    let trim ← Stored.fieldOr? default.trim Stored.asBool? trim
    return ⟨marker, trim⟩
  | _ => none

def stored (config : Config) : Stored :=
  .fields [("marker", .text (String.singleton config.marker)), ("trim_spaces", .bool config.trim)]

end Config

namespace Position

def read? (stored : Stored) : Option Position :=
  match stored.record? ["offset", "line", "column"] false with
  | some [some offset, some line, some column] => do
    let offset ← offset.asNatural? offsetLimit
    let line ← line.asNatural? countLimit
    let column ← column.asNatural? countLimit
    return ⟨offset, line, column⟩
  | _ => none

def stored (position : Position) : Stored :=
  .fields [("offset", .natural position.offset), ("line", .natural position.line),
    ("column", .natural position.column)]

end Position

namespace Slice

-- The span is taken as stored, also when it ends before it starts.
def read? (stored : Stored) : Option Slice :=
  match stored.record? ["source", "text", "start", "end"] false with
  | some [some source, some text, some start, some stop] => do
    let source ← source.asText?
    let text ← text.asText?
    let start ← Position.read? start
    let stop ← Position.read? stop
    return ⟨source, text, start, stop⟩
  | _ => none

def stored (slice : Slice) : Stored :=
  .fields [("source", .text slice.source), ("text", .text slice.text),
    ("start", slice.start.stored), ("end", slice.stop.stored)]

end Slice

namespace TokenKind

def builtin : List TokenKind :=
  [.whitespace, .newline, .content, .globalBlock, .localBlock, .expression, .macroCall]

-- A built-in kind is stored by its name, bare or naming nothing; a custom one names its number.
def read? : Stored → Option TokenKind
  | .text name => builtin.find? (·.dump = name)
  | .fields [("Custom", value)] => (value.asNatural? countLimit).map .custom
  | .fields [(name, .null)] => builtin.find? (·.dump = name)
  | _ => none

def stored : TokenKind → Stored
  | .custom id => .fields [("Custom", .natural id)]
  | kind => .text kind.dump

end TokenKind
end TemplateCompiler
