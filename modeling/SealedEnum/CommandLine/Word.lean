namespace SealedEnum.CommandLine

/-! The kinds of words on a command line. -/

inductive Word where
  /-- Two dashes: no word behind them is an option. -/
  | separator
  | long (name : String) (value : Option String)
  | short (letters : List Char)
  | plain (text : String)
  deriving DecidableEq

/-- A long option's value stands behind its first equals sign. -/
def longWord (text : List Char) : Word :=
  let name := String.ofList (text.takeWhile (· ≠ '='))
  match text.dropWhile (· ≠ '=') with
  | [] => .long name none
  | _ :: value => .long name (some (String.ofList value))

/-- A single dash is a plain word. -/
def Word.ofString (text : String) : Word :=
  match text.toList with
  | ['-', '-'] => .separator
  | '-' :: '-' :: rest => longWord rest
  | '-' :: letter :: rest => .short (letter :: rest)
  | _ => .plain text

end SealedEnum.CommandLine
