import SealedEnum.Toml.Value

namespace SealedEnum.Toml

/-! Integers and reals, from the run of characters that spells one. -/

def isDecimalDigit (c : Char) : Bool :=
  '0' ≤ c && c ≤ '9'

def digitValue (c : Char) : Nat :=
  if isDecimalDigit c then c.toNat - '0'.toNat
  else if 'a' ≤ c && c ≤ 'f' then c.toNat - 'a'.toNat + 10
  else if 'A' ≤ c && c ≤ 'F' then c.toNat - 'A'.toNat + 10
  else 36

def isDigitOf (base : Nat) (c : Char) : Bool :=
  digitValue c < base

def readDigits (base : Nat) (digits : List Char) : Nat :=
  digits.foldl (fun n c => n * base + digitValue c) 0

/-- Removes underscores, each of which must stand between two digits. -/
def ungroup (base : Nat) : List Char → Option (List Char)
  | [] => none
  | [c] => if isDigitOf base c then some [c] else none
  | c :: '_' :: rest => if isDigitOf base c then (ungroup base rest).map (c :: ·) else none
  | c :: rest => if isDigitOf base c then (ungroup base rest).map (c :: ·) else none

/-- Digits without a superfluous leading zero. -/
private def wholeDigits? (text : List Char) : Option (List Char) :=
  match ungroup 10 text with
  | some ('0' :: _ :: _) => none
  | digits => digits

private def splitSign : List Char → Bool × List Char
  | '-' :: rest => (true, rest)
  | '+' :: rest => (false, rest)
  | text => (false, text)

def integer? (text : List Char) : Option Int :=
  match text with
  | '0' :: 'x' :: rest => (ungroup 16 rest).map fun digits => Int.ofNat (readDigits 16 digits)
  | '0' :: 'o' :: rest => (ungroup 8 rest).map fun digits => Int.ofNat (readDigits 8 digits)
  | '0' :: 'b' :: rest => (ungroup 2 rest).map fun digits => Int.ofNat (readDigits 2 digits)
  | _ =>
      let (negative, rest) := splitSign text
      (wholeDigits? rest).map fun digits =>
        let n := Int.ofNat (readDigits 10 digits)
        if negative then -n else n

private def isExponentMark (c : Char) : Bool :=
  c == 'e' || c == 'E'

/-- The exponent behind the mantissa, where there is one. -/
private def exponent? : List Char → Option Int
  | [] => some 0
  | mark :: rest =>
      if isExponentMark mark then
        let (negative, digits) := splitSign rest
        (ungroup 10 digits).map fun digits =>
          let n := Int.ofNat (readDigits 10 digits)
          if negative then -n else n
      else none

private def unsignedReal? (text : List Char) : Option Real :=
  let whole := text.takeWhile fun c => c != '.' && !isExponentMark c
  match wholeDigits? whole, text.drop whole.length with
  | some digits, '.' :: rest => do
      let fraction := rest.takeWhile fun c => !isExponentMark c
      let decimals ← ungroup 10 fraction
      let exponent ← exponent? (rest.drop fraction.length)
      return .decimal (readDigits 10 (digits ++ decimals)) (exponent - decimals.length)
  | some digits, mark :: rest => do
      let exponent ← exponent? (mark :: rest)
      return .decimal (readDigits 10 digits) exponent
  | _, _ => none

def real? (text : List Char) : Option Real :=
  let (_, rest) := splitSign text
  if rest = ['i', 'n', 'f'] then some .infinite
  else if rest = ['n', 'a', 'n'] then some .notNumber
  else unsignedReal? rest

def number? (text : List Char) : Option Value :=
  match integer? text with
  | some n => some (.integer n)
  | none => (real? text).map .real

end SealedEnum.Toml
