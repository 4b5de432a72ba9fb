import TemplateCompiler.Emit.Handler

namespace TemplateCompiler

def WriteKind.label : WriteKind → String
  | .text => "text"
  | .globalBlock => "global"
  | .localBlock => "block"
  | .expression => "expr"

structure Instruction where
  line : Nat
  kind : WriteKind
  text : String
deriving DecidableEq

def Instruction.display (instruction : Instruction) : String :=
  toString instruction.line ++ ": " ++ instruction.kind.label ++ " " ++
    Text.quoted instruction.text

structure Listing where
  globals : List Instruction
  body : List Instruction
deriving DecidableEq

namespace Listing

def empty : Listing := ⟨[], []⟩

def instructions (listing : Listing) : List Instruction := listing.globals ++ listing.body

def record (listing : Listing) (write : Write) : Listing :=
  let instruction := ⟨write.slice.start.line, write.kind, write.slice.text⟩
  if write.kind = .globalBlock then { listing with globals := listing.globals ++ [instruction] }
  else { listing with body := listing.body ++ [instruction] }

def render (listing : Listing) : String :=
  String.join (listing.instructions.map fun instruction => instruction.display ++ "\n")

-- Starting a document forgets what an aborted one left, finishing one leaves nothing behind.
def handler {σ : Type} (macros : List (Macro σ)) : Handler σ Listing where
  macros := macros
  begin _ := empty
  write := record
  finish listing := (.ok listing.render, empty)

end Listing
end TemplateCompiler
