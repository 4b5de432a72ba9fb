import TemplateCompiler.Source.Lines
import TemplateCompiler.Source.Misuse

namespace TemplateCompiler

inductive Phase where
  | tokenizer
  | parse
  | emit
deriving DecidableEq

def Phase.name : Phase → String
  | .tokenizer => "tokenizer"
  | .parse => "parse"
  | .emit => "emit"

inductive ErrorCode where
  | unbalanced
  | noBlockOpen
  | unterminatedBody
  | unknownMacro
  | unexpectedToken
  | handlerFailed
  | formatterFailed
deriving DecidableEq

namespace ErrorCode

-- The first digit tells the phase that reports the code.
def number : ErrorCode → String
  | .unbalanced => "E0001"
  | .noBlockOpen => "E0002"
  | .unterminatedBody => "E0003"
  | .unknownMacro => "E1001"
  | .unexpectedToken => "E1002"
  | .handlerFailed => "E2001"
  | .formatterFailed => "E2002"

def description : ErrorCode → String
  | .unbalanced => "unbalanced delimiter"
  | .noBlockOpen => "expected block open"
  | .unterminatedBody => "unterminated macro body"
  | .unknownMacro => "unknown macro"
  | .unexpectedToken => "unexpected token"
  | .handlerFailed => "handler failed"
  | .formatterFailed => "formatter failed"

def all : List ErrorCode :=
  [.unbalanced, .noBlockOpen, .unterminatedBody, .unknownMacro, .unexpectedToken, .handlerFailed,
    .formatterFailed]

def ofNumber? (number : String) : Option ErrorCode := all.find? (·.number == number)

end ErrorCode

structure Place where
  source : String
  position : Position
  snippet : String
deriving DecidableEq

def Place.display (place : Place) : String := place.source ++ ":" ++ place.position.display

structure TemplateError where
  phase : Phase
  code : ErrorCode
  message : String
  place : Option Place
deriving DecidableEq

namespace TemplateError

def unplaced (phase : Phase) (code : ErrorCode) (message : String) : TemplateError :=
  ⟨phase, code, message, none⟩

def placedAt (error : TemplateError) (place : Place) : TemplateError :=
  { error with place := some place }

def handler (message : String) : TemplateError := unplaced .emit .handlerFailed message

def formatter (message : String) : TemplateError := unplaced .emit .formatterFailed message

def display (error : TemplateError) : String :=
  let shown := error.phase.name ++ " error[" ++ error.code.number ++ "]: " ++
    error.code.description ++ ": " ++ error.message
  match error.place with
  | none => shown
  | some place => place.display ++ ": " ++ shown ++ "\n" ++ place.snippet

end TemplateError

def Source.error (source : Source) (phase : Phase) (code : ErrorCode) (position : Position)
    (message : String) : TemplateError :=
  ⟨phase, code, message, some ⟨source.name, position, source.caret position⟩⟩

def Source.errorAt (source : Source) (phase : Phase) (code : ErrorCode) (offset : Nat)
    (message : String) : TemplateError :=
  source.error phase code (source.positionAt offset) message

inductive Fault where
  | error (error : TemplateError)
  | misuse (misuse : Misuse)
deriving DecidableEq

end TemplateCompiler
