import SealedEnum.Unicode.ClusterTable
import SealedEnum.Unicode.Printable

namespace SealedEnum.Text

open SealedEnum.Unicode

/-! Text in double quotes, for log messages. -/

private def hexadecimal (n : Nat) : List Char :=
  Nat.toDigits 16 n

/-- Marks are escaped as well, since they would not stand apart from what precedes them. -/
def escapeChar (c : Char) : List Char :=
  if c = '"' then ['\\', '"']
  else if c = '\\' then ['\\', '\\']
  else if c = '\n' then ['\\', 'n']
  else if c = '\r' then ['\\', 'r']
  else if c = '\t' then ['\\', 't']
  else if c = '\x00' then ['\\', '0']
  else if graphemeExtenders.contains c.toNat || !isPrintable c then
    ['\\', 'u', '{'] ++ hexadecimal c.toNat ++ ['}']
  else [c]

def quoted (text : String) : String :=
  String.ofList ('"' :: text.toList.flatMap escapeChar ++ ['"'])

end SealedEnum.Text
