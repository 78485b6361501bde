namespace SealedEnum

/-! JSON values and their text over several lines. -/

inductive Json where
  | null
  | string (text : String)
  | array (items : List Json)
  | object (fields : List (String × Json))

namespace Json

private def hexadecimalDigit (n : Nat) : Char :=
  if n < 10 then Char.ofNat ('0'.toNat + n) else Char.ofNat ('a'.toNat + n - 10)

def escapeChar (c : Char) : List Char :=
  if c = '"' then ['\\', '"']
  else if c = '\\' then ['\\', '\\']
  else if c = '\n' then ['\\', 'n']
  else if c = '\r' then ['\\', 'r']
  else if c = '\t' then ['\\', 't']
  else if c = '\x08' then ['\\', 'b']
  else if c = '\x0c' then ['\\', 'f']
  else if c.toNat < 32 then
    ['\\', 'u', '0', '0', hexadecimalDigit (c.toNat / 16), hexadecimalDigit (c.toNat % 16)]
  else [c]

def quoted (text : String) : String :=
  String.ofList ('"' :: text.toList.flatMap escapeChar ++ ['"'])

private def indentation (depth : Nat) : String :=
  String.ofList (List.replicate (2 * depth) ' ')

/-- Pieces between brackets, each on a line of its own; without pieces the brackets touch. -/
private def bracketed (opening closing : String) (depth : Nat) (pieces : List String) : String :=
  if pieces.isEmpty then opening ++ closing
  else
    let lines := pieces.map fun piece => indentation (depth + 1) ++ piece
    opening ++ "\n" ++ String.intercalate ",\n" lines ++ "\n" ++ indentation depth ++ closing

mutual

def renderAt (depth : Nat) : Json → String
  | .null => "null"
  | .string text => quoted text
  | .array items => bracketed "[" "]" depth (itemsAt (depth + 1) items)
  | .object fields => bracketed "\x7b" "\x7d" depth (fieldsAt (depth + 1) fields)

private def itemsAt (depth : Nat) : List Json → List String
  | [] => []
  | item :: rest => renderAt depth item :: itemsAt depth rest

private def fieldsAt (depth : Nat) : List (String × Json) → List String
  | [] => []
  | (name, value) :: rest =>
      (quoted name ++ ": " ++ renderAt depth value) :: fieldsAt depth rest

end

def render (value : Json) : String :=
  renderAt 0 value

end Json

end SealedEnum
