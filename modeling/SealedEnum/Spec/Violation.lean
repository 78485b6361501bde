namespace SealedEnum

/-! The ways in which a specification can be wrong. -/

inductive Violation where
  | emptyDestination
  | emptyPackage
  | invalidPackage (package : String)
  | emptyTypeName
  | invalidTypeName (typeName : String)
  | reservedTypeName (typeName : String)
  | noValues
  | emptyValue (index : Nat)
  | invalidValueName (value : String)
  | duplicateValue (value : String)
  | reservedValue (value identifier : String)
  | undefinedValueNotMember (value : String)
  | nilToUndefinedWithoutJson
  | nilToUndefinedWithoutUndefinedValue
  deriving DecidableEq

def Violation.message : Violation → String
  | .emptyDestination => "destination must not be empty"
  | .emptyPackage => "package must not be empty"
  | .invalidPackage package => s!"package `{package}` is not a valid Go package name"
  | .emptyTypeName => "type name must not be empty"
  | .invalidTypeName typeName => s!"type name `{typeName}` is not an exported Go identifier"
  | .reservedTypeName typeName => s!"type name `{typeName}` collides with a generated function"
  | .noValues => "values must contain at least one entry"
  | .emptyValue index => s!"value at index {index} is empty"
  | .invalidValueName value => s!"value `{value}` is not an exported Go identifier"
  | .duplicateValue value => s!"value `{value}` is declared more than once"
  | .reservedValue value identifier =>
      s!"value `{value}` collides with generated identifier `{identifier}`"
  | .undefinedValueNotMember value =>
      s!"undefined value `{value}` is not one of the declared values"
  | .nilToUndefinedWithoutJson => "nil-to-undefined requires JSON generation to be enabled"
  | .nilToUndefinedWithoutUndefinedValue => "nil-to-undefined requires an undefined value"

end SealedEnum
