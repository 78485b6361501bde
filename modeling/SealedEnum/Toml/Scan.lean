namespace SealedEnum.Toml

/-! Blanks, comments and line ends. -/

/-- A reader consumes the start of a text and leaves the rest. -/
abbrev Reader (α : Type) := List Char → Option (α × List Char)

def isBlank (c : Char) : Bool :=
  c == ' ' || c == '\t'

def isControl (c : Char) : Bool :=
  (c.toNat < 32 && c != '\t') || c.toNat == 127

def skipBlanks (text : List Char) : List Char :=
  text.dropWhile isBlank

/-- Skips blanks, line ends and comments; a comment may hold no control character. -/
def skipGap (inComment : Bool) : List Char → Option (List Char)
  | [] => some []
  | '\r' :: '\n' :: rest => skipGap false rest
  | '\n' :: rest => skipGap false rest
  | c :: rest =>
      if inComment then if isControl c then none else skipGap true rest
      else if isBlank c then skipGap false rest
      else if c == '#' then skipGap true rest
      else some (c :: rest)

/-- Whether a line break or the end of the text comes next, blanks and a comment aside. -/
def endsLine (text : List Char) : Bool :=
  match skipBlanks text with
  | [] => true
  | '\n' :: _ => true
  | '\r' :: '\n' :: _ => true
  | '#' :: _ => true
  | _ => false

end SealedEnum.Toml
