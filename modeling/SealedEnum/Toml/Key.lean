import SealedEnum.Toml.Quoted

namespace SealedEnum.Toml

/-! Keys: bare or quoted parts between dots. -/

/-- The deepest nesting of arrays and tables, and the most parts of a key. -/
def maximumDepth : Nat := 80

def isBareKeyPart (c : Char) : Bool :=
  isDecimalDigit c || ('a' ≤ c && c ≤ 'z') || ('A' ≤ c && c ≤ 'Z') || c == '_' || c == '-'

def keyPart : Reader String := fun text =>
  match text with
  | '"' :: _ => quotedLine text
  | '\'' :: _ => quotedLine text
  | _ =>
      let bare := text.takeWhile isBareKeyPart
      if bare.isEmpty then none else some (String.ofList bare, text.drop bare.length)

private def keyParts : Nat → Reader (List String)
  | 0, _ => none
  | limit + 1, text =>
      match keyPart (skipBlanks text) with
      | none => none
      | some (part, rest) =>
          match skipBlanks rest with
          | '.' :: rest => (keyParts limit rest).map fun (parts, rest) => (part :: parts, rest)
          | rest => some ([part], rest)

/-- The tables a key leads through and its last part; blanks around it are skipped. -/
def key : Reader (List String × String) := fun text =>
  match keyParts maximumDepth text with
  | some (parts, rest) =>
      match parts.getLast? with
      | some last => some ((parts.dropLast, last), rest)
      | none => none
  | none => none

end SealedEnum.Toml
