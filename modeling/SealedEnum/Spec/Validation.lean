import SealedEnum.Identifier
import SealedEnum.Names
import SealedEnum.Spec
import SealedEnum.Spec.Violation

namespace SealedEnum

open SealedEnum.Identifier

/-! The first violation of a specification, in the order of its fields. -/

def destinationViolation? (destination : Path) : Option Violation :=
  if destination.isEmpty then some .emptyDestination else none

def packageViolation? (package : String) : Option Violation :=
  if package.isEmpty then some .emptyPackage
  else if package = "_" || !isIdentifier package || isKeyword package then
    some (.invalidPackage package)
  else none

def typeNameViolation? (typeName : String) : Option Violation :=
  if typeName.isEmpty then some .emptyTypeName
  else if !isExported typeName then some (.invalidTypeName typeName)
  else if generatedFunctions.contains typeName then some (.reservedTypeName typeName)
  else none

/-- What is wrong with one value, given its index and the values before it. -/
def valueViolation? (reserved : List String) (earlier : List String) (value : String) :
    Option Violation :=
  if value.isEmpty then some (.emptyValue earlier.length)
  else if !isExported value then some (.invalidValueName value)
  else
    match reserved.find? (· == value) with
    | some identifier => some (.reservedValue value identifier)
    | none => if earlier.contains value then some (.duplicateValue value) else none

def firstValueViolation? (reserved : List String) : List String → List String → Option Violation
  | _, [] => none
  | earlier, value :: rest =>
      match valueViolation? reserved earlier value with
      | some violation => some violation
      | none => firstValueViolation? reserved (earlier ++ [value]) rest

def valuesViolation? (typeName : String) (values : List String) : Option Violation :=
  if values.isEmpty then some .noValues
  else firstValueViolation? (reservedNames typeName) [] values

namespace Spec

def undefinedViolation? (spec : Spec) : Option Violation :=
  match spec.undefined? with
  | none => none
  | some value =>
      if spec.values.contains value then none else some (.undefinedValueNotMember value)

def jsonViolation? (spec : Spec) : Option Violation :=
  if !spec.json.nilToUndefined then none
  else if !spec.json.generate then some .nilToUndefinedWithoutJson
  else if spec.undefined?.isNone then some .nilToUndefinedWithoutUndefinedValue
  else none

def violation? (spec : Spec) : Option Violation :=
  destinationViolation? spec.destination
    <|> packageViolation? spec.package
    <|> typeNameViolation? spec.typeName
    <|> valuesViolation? spec.typeName spec.values
    <|> spec.undefinedViolation?
    <|> spec.jsonViolation?

def validate (spec : Spec) : Except Violation Unit :=
  match spec.violation? with
  | some violation => .error violation
  | none => .ok ()

/-- The violated specifications among many, each with its position and first violation. -/
def violations (specs : List Spec) : List (Nat × Spec × Violation) :=
  specs.zipIdx.filterMap fun (spec, index) =>
    spec.violation?.map fun violation => (index, spec, violation)

end Spec

end SealedEnum
