import TemplateCompiler.Macro.Scan

namespace TemplateCompiler

inductive WriteKind where
  | text
  | globalBlock
  | localBlock
  | expression
deriving DecidableEq

structure Write where
  kind : WriteKind
  slice : Slice
deriving DecidableEq

-- Answer of a macro to one of its call tokens: writes, which stand even if it fails, and how many
-- of the tokens after it are used up.
structure HookAnswer where
  writes : List Write
  used : Except TemplateError Nat

-- `call` spans the invocation and carries the name as its text.
structure Macro (σ : Type) where
  name : String
  expand : (call : Slice) → Scan σ (List Token)
  parse : (token : Token) → (rest : List Token) → HookAnswer

namespace Macro

def ignoreToken (_token : Token) (_rest : List Token) : HookAnswer := ⟨[], .ok 0⟩

end Macro

structure MacroTable (σ : Type) where
  macros : List (Macro σ)

namespace MacroTable
variable {σ : Type}

def empty : MacroTable σ := ⟨[]⟩

def get? (table : MacroTable σ) (name : String) : Option (Macro σ) :=
  table.macros.find? (·.name = name)

def contains (table : MacroTable σ) (name : String) : Bool := (table.get? name).isSome

def register (table : MacroTable σ) (entry : Macro σ) : MacroTable σ :=
  ⟨entry :: table.macros.filter (·.name ≠ entry.name)⟩

def registerAll (table : MacroTable σ) (entries : List (Macro σ)) : MacroTable σ :=
  entries.foldl register table

def names (table : MacroTable σ) : List String :=
  (table.macros.map (·.name)).mergeSort fun left right => ¬ right < left

def size (table : MacroTable σ) : Nat := table.macros.length

def dump (table : MacroTable σ) : String :=
  "\x7b" ++ ", ".intercalate (table.names.map Text.quoted) ++ "\x7d"

end MacroTable
end TemplateCompiler
