namespace SealedEnum.Source

/-! Columns of text, measured in characters. -/

def columnWidth (entries : List String) : Nat :=
  (entries.map String.length).foldl max 0

/-- The widest column that text can be padded to. Padding to a wider one ends the program. -/
def widestColumn : Nat := 65535

/-- The text, then spaces up to the width. -/
def padTo (width : Nat) (text : String) : String :=
  text ++ String.ofList (List.replicate (width - text.length) ' ')

end SealedEnum.Source
