import TemplateCompiler.Text.Alphabetic
import TemplateCompiler.Text.Numeric

namespace TemplateCompiler.Text

def isIdentifierStart (c : Char) : Bool := isAlphabetic c || c == '_'

def isIdentifierPart (c : Char) : Bool := isAlphabetic c || isNumeric c || c == '_'

def identifier? (text : List Char) : Option (List Char) :=
  match text with
  | [] => none
  | c :: _ => if isIdentifierStart c then some (text.takeWhile isIdentifierPart) else none

theorem isIdentifierPart_of_start {c : Char} (start : isIdentifierStart c = true) :
    isIdentifierPart c = true := by
  simp only [isIdentifierStart, Bool.or_eq_true] at start
  rcases start with start | start <;> simp [isIdentifierPart, start]

end TemplateCompiler.Text
