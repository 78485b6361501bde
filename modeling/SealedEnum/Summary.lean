import SealedEnum.Failure
import SealedEnum.Json
import SealedEnum.Model

namespace SealedEnum

/-! What would be generated for a specification, without its source. -/

structure Summary where
  typeName : String
  package : String
  destination : Path
  shape : Shape
  capabilities : List Capability
  values : List String
  undefinedValue : Option String
  deriving DecidableEq

namespace Summary

def ofModel (destination : Path) (model : Model) : Summary where
  typeName := model.typeName
  package := model.package
  destination := destination
  shape := model.shape
  capabilities := model.capabilities
  values := model.values
  undefinedValue := model.undefined

/-- A license plays no part in a summary. -/
def ofSpec (spec : Spec) : Except Failure Summary :=
  match Model.build spec none with
  | .ok model => .ok (ofModel spec.destination model)
  | .error violation => .error (.spec spec.typeName violation)

/-- Fails at the first invalid specification. -/
def ofSpecs : List Spec → Except Failure (List Summary)
  | [] => .ok []
  | spec :: rest =>
      match ofSpec spec with
      | .error failure => .error failure
      | .ok summary => (ofSpecs rest).map (summary :: ·)

def listed (items : List String) : String :=
  String.intercalate ", " items

def lines (summary : Summary) : List String :=
  ["", s!"{summary.typeName} (package {summary.package})",
    s!"  Destination:  {summary.destination.text}",
    s!"  Shape:        {summary.shape.name}",
    s!"  Capabilities: {listed (summary.capabilities.map Capability.name)}",
    s!"  Values:       {listed summary.values}"]
    ++ match summary.undefinedValue with
      | some value => [s!"  Undefined:    {value}"]
      | none => []

/-- An overview for people. -/
def overview (summaries : List Summary) : String :=
  String.join ((["", "=== Enums ==="] ++ summaries.flatMap lines).map (· ++ "\n"))

def toJson (summary : Summary) : Json :=
  .object
    [("type_name", .string summary.typeName),
      ("package", .string summary.package),
      ("destination", .string summary.destination.text),
      ("shape", .string summary.shape.name),
      ("capabilities",
        .array (summary.capabilities.map fun capability => .string capability.name)),
      ("values", .array (summary.values.map Json.string)),
      ("undefined_value",
        match summary.undefinedValue with
        | some value => .string value
        | none => .null)]

/-- An overview for programs. -/
def document (summaries : List Summary) : String :=
  (Json.array (summaries.map toJson)).render ++ "\n"

end Summary

end SealedEnum
