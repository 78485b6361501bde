import SealedEnum.Unicode.Digit
import SealedEnum.Unicode.Letter
import SealedEnum.Unicode.Uppercase

namespace SealedEnum.Identifier

open SealedEnum.Unicode

/-! Identifiers of Go: a letter or underscore, then letters, decimal digits and underscores. -/

def isStart (c : Char) : Bool :=
  isLetter c || c == '_'

def isPart (c : Char) : Bool :=
  isLetter c || isDecimalDigit c || c == '_'

def isIdentifier (name : String) : Bool :=
  match name.toList with
  | [] => false
  | c :: rest => isStart c && rest.all isPart

/-- Exported identifiers start with an upper-case letter, not with a title-case one. -/
def isExported (name : String) : Bool :=
  match name.toList with
  | [] => false
  | c :: rest => isUppercaseLetter c && rest.all isPart

def keywords : List String :=
  ["break", "case", "chan", "const", "continue", "default", "defer", "else", "fallthrough",
    "for", "func", "go", "goto", "if", "import", "interface", "map", "package", "range",
    "return", "select", "struct", "switch", "type", "var"]

def isKeyword (name : String) : Bool :=
  keywords.contains name

end SealedEnum.Identifier
