import SealedEnum.Path

namespace SealedEnum

/-! What to generate: a closed set of values and where its source goes. -/

structure JsonOptions where
  generate : Bool := false
  nilToUndefined : Bool := false
  deriving DecidableEq

structure Spec where
  destination : Path
  licenseFile : Option Path
  package : String
  typeName : String
  values : List String
  undefinedValue : Option String
  json : JsonOptions
  deriving DecidableEq

/-- An empty undefined value counts as none. -/
def Spec.undefined? (spec : Spec) : Option String :=
  spec.undefinedValue.filter fun value => !value.isEmpty

end SealedEnum
