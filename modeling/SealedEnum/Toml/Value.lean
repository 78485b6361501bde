namespace SealedEnum.Toml

/-! TOML documents as values. -/

inductive Real where
  | infinite
  | notNumber
  | decimal (digits : Nat) (exponent : Int)
  deriving DecidableEq

/-- How a table came about, which decides what may still be added to it. -/
inductive Origin where
  | header
  | implied
  | dotted
  | inlined
  deriving DecidableEq

inductive Value where
  | string (text : String)
  | boolean (value : Bool)
  | integer (value : Int)
  | real (value : Real)
  | moment
  | array (items : List Value)
  | tables (items : List Value)
  | table (origin : Origin) (entries : List (String × Value))

abbrev Entries := List (String × Value)

/-- The least number that no longer rounds to a finite double. -/
private def infinityBound : Nat :=
  (1 <<< 1024) - (1 <<< 970)

/-- Whether the nearest double is finite. -/
def Real.isRepresentable : Real → Bool
  | .infinite => true
  | .notNumber => true
  | .decimal digits exponent =>
      if digits = 0 then true
      else
        let magnitude := exponent + (Nat.log2 digits / 3 : Nat)
        if exponent > 400 then false
        else if magnitude < 0 then true
        else if exponent ≥ 0 then digits * Nat.pow 10 exponent.toNat < infinityBound
        else digits < infinityBound * Nat.pow 10 (-exponent).toNat

def integerIsRepresentable (n : Int) : Bool :=
  -Int.ofNat (1 <<< 127) ≤ n && n < Int.ofNat (1 <<< 128)

mutual

/-- Whether every number in a value fits the largest machine types. -/
def Value.isRepresentable : Value → Bool
  | .integer n => integerIsRepresentable n
  | .real value => value.isRepresentable
  | .array items => allRepresentable items
  | .tables items => allRepresentable items
  | .table _ entries => entriesRepresentable entries
  | _ => true

def allRepresentable : List Value → Bool
  | [] => true
  | item :: rest => item.isRepresentable && allRepresentable rest

def entriesRepresentable : Entries → Bool
  | [] => true
  | (_, value) :: rest => value.isRepresentable && entriesRepresentable rest

end

end SealedEnum.Toml
