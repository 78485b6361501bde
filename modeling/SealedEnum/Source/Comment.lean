import SealedEnum.Text.Lines

namespace SealedEnum.Source

open SealedEnum.Text

/-! License text as a block of line comments. -/

def commentLine (line : List Char) : List Char :=
  match trimEnd line with
  | [] => ['/', '/']
  | c :: rest => '/' :: '/' :: ' ' :: c :: rest

/-- One comment line per line of the text without its trailing white space, then a bare `//`.
Blank text has no block. -/
def commentBlock (text : String) : Option (List String) :=
  let characters := text.toList
  if isAllBlank characters then none
  else
    let body := (lines (trimEnd characters)).map commentLine
    some ((body ++ [['/', '/']]).map String.ofList)

end SealedEnum.Source
