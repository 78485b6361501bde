import SealedEnum.Shape
import SealedEnum.Spec.Validation

namespace SealedEnum

/-! The content of a generated file, derived from a specification and the text of a license. -/

structure Model where
  package : String
  typeName : String
  values : List String
  undefined : Option String
  json : Option DecodePolicy
  license : Option String
  deriving DecidableEq

namespace Model

def ofSpec (spec : Spec) (license : Option String) : Model where
  package := spec.package
  typeName := spec.typeName
  values := spec.values
  undefined := spec.undefined?
  json :=
    if !spec.json.generate then none
    else if spec.json.nilToUndefined then some .nilToUndefined
    else some .strict
  license := license

/-- Models are built from valid specifications only. -/
def build (spec : Spec) (license : Option String) : Except Violation Model :=
  match spec.validate with
  | .error violation => .error violation
  | .ok () => .ok (ofSpec spec license)

def names (model : Model) : DerivedNames :=
  DerivedNames.ofType model.typeName

def shape (model : Model) : Shape :=
  match model.undefined, model.json with
  | none, none => .plain
  | some _, none => .withUndefined
  | none, some _ => .withJson
  | some _, some .strict => .withUndefinedAndJson
  | some _, some .nilToUndefined => .withUndefinedAndJsonNilToUndefined

def capabilities (model : Model) : List Capability :=
  model.shape.capabilities

def has (model : Model) (capability : Capability) : Bool :=
  model.shape.includes capability

end Model

end SealedEnum
