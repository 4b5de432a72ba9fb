import TemplateCompiler.Text.Hidden

namespace TemplateCompiler.Text

def hexadecimal (c : Char) : List Char := Nat.toDigits 16 c.toNat

def escape (quote c : Char) : List Char :=
  if c = '\x00' then ['\\', '0']
  else if c = '\t' then ['\\', 't']
  else if c = '\n' then ['\\', 'n']
  else if c = '\r' then ['\\', 'r']
  else if c = '\\' then ['\\', '\\']
  else if c = quote then ['\\', quote]
  else if isHidden c then ['\\', 'u', '\x7b'] ++ hexadecimal c ++ ['\x7d']
  else [c]

def quoted (text : String) : String :=
  String.ofList ('"' :: text.toList.flatMap (escape '"') ++ ['"'])

def quotedRune (c : Char) : String :=
  String.ofList ('\'' :: escape '\'' c ++ ['\''])

end TemplateCompiler.Text
