import SealedEnum.Unicode.Blank

namespace SealedEnum.Text

open SealedEnum.Unicode

/-! Trimming and lines of text. -/

def trimStart (text : List Char) : List Char :=
  text.dropWhile isBlank

def trimEnd (text : List Char) : List Char :=
  (text.reverse.dropWhile isBlank).reverse

def isAllBlank (text : List Char) : Bool :=
  text.all isBlank

/-- The pieces between the occurrences of a separator: one more than there are separators. -/
def splitAt (separator : Char) : List Char → List (List Char)
  | [] => [[]]
  | c :: rest =>
      if c = separator then [] :: splitAt separator rest
      else
        match splitAt separator rest with
        | [] => [[c]]
        | piece :: pieces => (c :: piece) :: pieces

/-- A carriage return is part of the line break only where a line feed follows it. -/
def dropReturn (line : List Char) : List Char :=
  if line.getLast? = some '\r' then line.dropLast else line

/-- Terminated lines lose their line break; text behind the last line feed is a line unless it is
empty. -/
def lines (text : List Char) : List (List Char) :=
  let pieces := splitAt '\n' text
  let terminated := pieces.dropLast.map dropReturn
  match pieces.getLast? with
  | some (c :: rest) => terminated ++ [c :: rest]
  | _ => terminated

end SealedEnum.Text
