import TemplateCompiler.Lexer
import TemplateCompiler.Optimizer
import TemplateCompiler.Macro.Blocks
import TemplateCompiler.Emit.Listing

namespace TemplateCompiler

def defaultMarker : Char := '◊'

structure Config where
  marker : Char
  trim : Bool
deriving DecidableEq

namespace Config

def default : Config := ⟨defaultMarker, false⟩

def withMarker (config : Config) (marker : Char) : Config := { config with marker := marker }

def withTrim (config : Config) (trim : Bool) : Config := { config with trim := trim }

def dump (config : Config) : String :=
  "ParserConfig \x7b marker: " ++ Text.quotedRune config.marker ++ ", trim_spaces: " ++
    toString config.trim ++ " \x7d"

end Config

-- The macros are those of the caller, in the order in which they were added.
structure Compiler (σ : Type) where
  config : Config
  macros : List (Macro σ)
  formatter : Option (String → Except TemplateError String)

structure Compiled (σ τ : Type) where
  result : Except Fault String
  memory : σ
  state : τ

namespace Compiler
variable {σ τ : Type}

def new (config : Config) : Compiler σ := ⟨config, [], none⟩

def withMacro (compiler : Compiler σ) (entry : Macro σ) : Compiler σ :=
  { compiler with macros := compiler.macros ++ [entry] }

def withFormatter (compiler : Compiler σ) (formatter : String → Except TemplateError String) :
    Compiler σ :=
  { compiler with formatter := some formatter }

def format (compiler : Compiler σ) (emitted : String) : Except TemplateError String :=
  match compiler.formatter with
  | none => .ok emitted
  | some formatter => formatter emitted

def compile (compiler : Compiler σ) (handler : Handler σ τ) (source : Source) (memory : σ)
    (state : τ) : Compiled σ τ :=
  let macros := MacroTable.resolve handler.macros compiler.macros
  let lexed := Lexer.tokenize ⟨compiler.config.marker, macros⟩ source memory
  match lexed.value with
  | .error fault => ⟨.error fault, lexed.memory, state⟩
  | .ok tokens =>
    let (emitted, state) :=
      handler.parse macros source (optimize tokens compiler.config.trim) state
    ⟨(emitted.bind compiler.format).mapError .error, lexed.memory, state⟩

def dump (compiler : Compiler σ) : String :=
  "Compiler \x7b config: " ++ compiler.config.dump ++ ", macros: [" ++
    ", ".intercalate (compiler.macros.map fun entry => Text.quoted entry.name) ++
    "], formatter: " ++ toString compiler.formatter.isSome ++ " \x7d"

end Compiler
end TemplateCompiler
