namespace SealedEnum.Unicode

/-! Sets of code points as sorted lists of inclusive ranges. -/

abbrev Ranges := List (Nat × Nat)

/-- The search stops at the first range that starts beyond the code point. -/
def Ranges.contains : Ranges → Nat → Bool
  | [], _ => false
  | (first, last) :: rest, n =>
      if n < first then false else n ≤ last || Ranges.contains rest n

end SealedEnum.Unicode
