import SealedEnum.Toml.Number
import SealedEnum.Toml.Scan

namespace SealedEnum.Toml

/-! Quoted text: basic strings with escapes, literal strings without, on one line or on many. -/

private def scalar? (n : Nat) : Option Char :=
  if n < 0xD800 || (0xE000 ≤ n && n < 0x110000) then some (Char.ofNat n) else none

private def hexadecimal (count : Nat) : Reader Char := fun text =>
  let digits := text.take count
  if digits.length = count && digits.all (isDigitOf 16) then
    (scalar? (readDigits 16 digits)).map fun c => (c, text.drop count)
  else none

/-- The character an escape stands for; the text starts behind the backslash. -/
def escape : Reader Char
  | 'b' :: rest => some ('\x08', rest)
  | 't' :: rest => some ('\t', rest)
  | 'n' :: rest => some ('\n', rest)
  | 'f' :: rest => some ('\x0c', rest)
  | 'r' :: rest => some ('\r', rest)
  | 'e' :: rest => some ('\x1b', rest)
  | '"' :: rest => some ('"', rest)
  | '\\' :: rest => some ('\\', rest)
  | 'x' :: rest => hexadecimal 2 rest
  | 'u' :: rest => hexadecimal 4 rest
  | 'U' :: rest => hexadecimal 8 rest
  | _ => none

private def prepend (c : Char) (result : Option (List Char × List Char)) :
    Option (List Char × List Char) :=
  result.map fun (text, rest) => (c :: text, rest)

def basicLine : Nat → Reader (List Char)
  | 0, _ => none
  | _ + 1, [] => none
  | _ + 1, '"' :: rest => some ([], rest)
  | fuel + 1, '\\' :: rest =>
      match escape rest with
      | some (c, rest) => prepend c (basicLine fuel rest)
      | none => none
  | fuel + 1, c :: rest => if isControl c then none else prepend c (basicLine fuel rest)

private def literalLine : Reader (List Char)
  | [] => none
  | '\'' :: rest => some ([], rest)
  | c :: rest => if isControl c then none else prepend c (literalLine rest)

/-- The text behind a backslash at the end of a line, from the next visible character on. -/
private def foldedLine? (text : List Char) : Option (List Char) :=
  let isSpace := fun c => isBlank c || c == '\n'
  let rec skip : List Char → List Char
    | '\r' :: '\n' :: rest => skip rest
    | c :: rest => if isSpace c then skip rest else c :: rest
    | [] => []
  match skipBlanks text with
  | '\n' :: rest => some (skip rest)
  | '\r' :: '\n' :: rest => some (skip rest)
  | _ => none

private def withoutFirstBreak : List Char → List Char
  | '\n' :: rest => rest
  | '\r' :: '\n' :: rest => rest
  | text => text

/-- A run of at least three quotes closes the text; up to two more before them belong to it. -/
private def closing? (quote : Char) (text : List Char) : Option (List Char × List Char) :=
  let run := (text.take 5).takeWhile fun c => c == quote
  if run.length < 3 then none else some (run.drop 3, text.drop run.length)

private def basicLines : Nat → Reader (List Char)
  | 0, _ => none
  | _ + 1, [] => none
  | fuel + 1, '"' :: rest =>
      match closing? '"' ('"' :: rest) with
      | some result => some result
      | none => prepend '"' (basicLines fuel rest)
  | fuel + 1, '\\' :: rest =>
      match foldedLine? rest with
      | some rest => basicLines fuel rest
      | none =>
          match escape rest with
          | some (c, rest) => prepend c (basicLines fuel rest)
          | none => none
  | fuel + 1, '\r' :: '\n' :: rest => prepend '\r' (prepend '\n' (basicLines fuel rest))
  | fuel + 1, c :: rest =>
      if isControl c && c != '\n' then none else prepend c (basicLines fuel rest)

private def literalLines : List Char → Option (List Char × List Char)
  | [] => none
  | '\'' :: rest =>
      match closing? '\'' ('\'' :: rest) with
      | some result => some result
      | none => prepend '\'' (literalLines rest)
  | '\r' :: '\n' :: rest => prepend '\r' (prepend '\n' (literalLines rest))
  | c :: rest => if isControl c && c != '\n' then none else prepend c (literalLines rest)

private def toText (result : Option (List Char × List Char)) : Option (String × List Char) :=
  result.map fun (text, rest) => (String.ofList text, rest)

/-- Text in quotes on one line. -/
def quotedLine : Reader String
  | '"' :: rest => toText (basicLine (rest.length + 1) rest)
  | '\'' :: rest => toText (literalLine rest)
  | _ => none

/-- Text in single or triple quotes. -/
def quoted : Reader String
  | '"' :: '"' :: '"' :: rest =>
      let body := withoutFirstBreak rest
      toText (basicLines (body.length + 1) body)
  | '\'' :: '\'' :: '\'' :: rest => toText (literalLines (withoutFirstBreak rest))
  | text => quotedLine text

end SealedEnum.Toml
