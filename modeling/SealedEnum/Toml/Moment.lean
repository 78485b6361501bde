import SealedEnum.Toml.Number

namespace SealedEnum.Toml

/-! Dates and times. Their values are of no use here, but only real dates and times are accepted. -/

private def readFixed (count : Nat) (text : List Char) : Option (Nat × List Char) :=
  let digits := text.take count
  if digits.length = count && digits.all isDecimalDigit then
    some (readDigits 10 digits, text.drop count)
  else none

def isLeapYear (year : Nat) : Bool :=
  year % 4 == 0 && (year % 100 != 0 || year % 400 == 0)

def daysInMonth (year month : Nat) : Nat :=
  if month = 2 then if isLeapYear year then 29 else 28
  else if month = 4 || month = 6 || month = 9 || month = 11 then 30
  else 31

/-- The text behind a date. -/
def date? (text : List Char) : Option (List Char) :=
  match readFixed 4 text with
  | some (year, '-' :: rest) =>
      match readFixed 2 rest with
      | some (month, '-' :: rest) =>
          match readFixed 2 rest with
          | some (day, rest) =>
              if 1 ≤ month && month ≤ 12 && 1 ≤ day && day ≤ daysInMonth year month then
                some rest
              else none
          | none => none
      | _ => none
  | _ => none

/-- The text behind hours and minutes. -/
private def clock? (text : List Char) : Option (List Char) :=
  match readFixed 2 text with
  | some (hour, ':' :: rest) =>
      match readFixed 2 rest with
      | some (minute, rest) => if hour ≤ 23 && minute ≤ 59 then some rest else none
      | none => none
  | _ => none

private def fraction? (text : List Char) : Option (List Char) :=
  match text with
  | '.' :: rest =>
      if (rest.takeWhile isDecimalDigit).isEmpty then none
      else some (rest.dropWhile isDecimalDigit)
  | _ => some text

/-- The text behind a time of day, whose seconds may be missing and may be a leap second. -/
def time? (text : List Char) : Option (List Char) :=
  match clock? text with
  | some (':' :: rest) =>
      match readFixed 2 rest with
      | some (second, rest) => if second ≤ 60 then fraction? rest else none
      | none => none
  | result => result

def isOffset : List Char → Bool
  | [] => true
  | ['Z'] => true
  | ['z'] => true
  | '+' :: rest => clock? rest == some []
  | '-' :: rest => clock? rest == some []
  | _ => false

def isMoment (text : List Char) : Bool :=
  match date? text with
  | some [] => true
  | some (separator :: rest) =>
      (separator == 'T' || separator == 't' || separator == ' ') &&
        match time? rest with
        | some rest => isOffset rest
        | none => false
  | none => time? text == some []

end SealedEnum.Toml
