namespace SealedEnum

/-! The package-level names of a generated file that do not come from the list of values. -/

/-- Functions every type brings along under the same name. -/
def generatedFunctions : List String :=
  ["Of", "OfOrUndefined", "Values"]

structure DerivedNames where
  interface : String
  base : String
  sealMethod : String
  marshallable : String
  invalidNameError : String
  invalidNameConstructor : String
  deriving DecidableEq

def DerivedNames.ofType (typeName : String) : DerivedNames where
  interface := typeName
  base := "base" ++ typeName
  sealMethod := "sealed" ++ typeName
  marshallable := "Marshallable" ++ typeName
  invalidNameError := "Invalid" ++ typeName ++ "NameError"
  invalidNameConstructor := "newInvalid" ++ typeName ++ "NameError"

/-- The exported names of a generated file, which no value may take. -/
def reservedNames (typeName : String) : List String :=
  let names := DerivedNames.ofType typeName
  generatedFunctions ++ [names.interface, names.marshallable, names.invalidNameError]

end SealedEnum
