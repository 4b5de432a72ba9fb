import TemplateCompiler.Token.Basic

namespace TemplateCompiler

inductive RegistryKey where
  | shared
  | own (number : Nat)
deriving DecidableEq

structure TypeEntry where
  registry : RegistryKey
  name : String
  id : Nat
deriving DecidableEq

-- All registries together: their entries, oldest first, and the number for the next new name.
structure TypeTable where
  next : Nat
  entries : List TypeEntry

namespace TypeTable

def empty : TypeTable := ⟨firstCustomId, []⟩

def lookup (table : TypeTable) (registry : RegistryKey) (name : String) : Option Nat :=
  (table.entries.find? fun entry => entry.registry = registry ∧ entry.name = name).map (·.id)

def register (table : TypeTable) (registry : RegistryKey) (name : String) : Nat × TypeTable :=
  match table.lookup registry name with
  | some id => (id, table)
  | none => (table.next, ⟨table.next + 1, table.entries ++ [⟨registry, name, table.next⟩]⟩)

def nameOf (table : TypeTable) (registry : RegistryKey) (id : Nat) : Option String :=
  (table.entries.find? fun entry => entry.registry = registry ∧ entry.id = id).map (·.name)

def size (table : TypeTable) (registry : RegistryKey) : Nat :=
  (table.entries.filter (·.registry = registry)).length

def dump (table : TypeTable) (registry : RegistryKey) : String :=
  "TokenTypeRegistry \x7b len: " ++ toString (table.size registry) ++ ", .. \x7d"

end TypeTable
end TemplateCompiler
