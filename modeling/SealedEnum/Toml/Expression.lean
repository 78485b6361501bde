import SealedEnum.Toml.Key
import SealedEnum.Toml.Moment
import SealedEnum.Toml.Table

namespace SealedEnum.Toml

/-! Values: scalars, arrays and inline tables. -/

private def isScalarPart (c : Char) : Bool :=
  isBareKeyPart c || c == '+' || c == '.' || c == ':'

/-- The run of characters that spells an unquoted scalar; one space may part a date from a time. -/
private def scalarRun (text : List Char) : List Char × List Char :=
  let run := text.takeWhile isScalarPart
  let rest := text.drop run.length
  match rest with
  | ' ' :: c :: _ =>
      if date? run == some [] && isDecimalDigit c then
        let time := (rest.drop 1).takeWhile isScalarPart
        (run ++ ' ' :: time, rest.drop (time.length + 1))
      else (run, rest)
  | _ => (run, rest)

private def unquoted (run : List Char) : Option Value :=
  if run = ['t', 'r', 'u', 'e'] then some (.boolean true)
  else if run = ['f', 'a', 'l', 's', 'e'] then some (.boolean false)
  else if isMoment run then some .moment
  else number? run

def scalar : Reader Value := fun text =>
  match text with
  | '"' :: _ => (quoted text).map fun (text, rest) => (.string text, rest)
  | '\'' :: _ => (quoted text).map fun (text, rest) => (.string text, rest)
  | _ =>
      let (run, rest) := scalarRun text
      (unquoted run).map fun value => (value, rest)

/-- The elements of an array, up to and including its closing bracket. -/
def arrayItems (element : Reader Value) : Nat → Reader (List Value)
  | 0, _ => none
  | fuel + 1, text => do
      let text ← skipGap false text
      match text with
      | ']' :: rest => return ([], rest)
      | _ =>
          let (item, rest) ← element text
          let rest ← skipGap false rest
          match rest with
          | ',' :: rest =>
              let (items, rest) ← arrayItems element fuel rest
              return (item :: items, rest)
          | ']' :: rest => return ([item], rest)
          | _ => none

/-- A key, an equals sign and a value, all on one line. -/
def keyValue (element : Reader Value) : Reader (List String × String × Value) := fun text => do
  let ((path, name), rest) ← key text
  match skipBlanks rest with
  | '=' :: rest =>
      let (value, rest) ← element (skipBlanks rest)
      return ((path, name, value), rest)
  | _ => none

/-- The entries of an inline table, up to and including its closing brace. -/
def tableEntries (element : Reader Value) : Nat → Entries → Reader Entries
  | 0, _, _ => none
  | fuel + 1, entries, text => do
      let text ← skipGap false text
      match text with
      | '}' :: rest => return (entries, rest)
      | _ =>
          let ((path, name, value), rest) ← keyValue element text
          let entries ← entries.insertDotted? name value path
          let rest ← skipGap false rest
          match rest with
          | ',' :: rest => tableEntries element fuel entries rest
          | '}' :: rest => return (entries, rest)
          | _ => none

/-- Values nested at most as deep as given. -/
def value : Nat → Reader Value
  | 0, '[' :: _ => none
  | 0, '{' :: _ => none
  | depth + 1, '[' :: rest => do
      let (items, rest) ← arrayItems (value depth) (rest.length + 1) rest
      return (.array items, rest)
  | depth + 1, '{' :: rest => do
      let (entries, rest) ← tableEntries (value depth) (rest.length + 1) [] rest
      return (.table .inlined entries, rest)
  | _, text => scalar text

end SealedEnum.Toml
