namespace SealedEnum

/-! Which declarations a generated file holds: five shapes, told apart by their capabilities. -/

inductive Capability where
  | base
  | strictLookup
  | fallbackLookup
  | jsonCodec
  | nilToUndefined
  deriving DecidableEq

namespace Capability

def all : List Capability :=
  [.base, .strictLookup, .fallbackLookup, .jsonCodec, .nilToUndefined]

def name : Capability → String
  | .base => "base"
  | .strictLookup => "strict-lookup"
  | .fallbackLookup => "fallback-lookup"
  | .jsonCodec => "json-codec"
  | .nilToUndefined => "nil-to-undefined"

end Capability

inductive Shape where
  | plain
  | withUndefined
  | withJson
  | withUndefinedAndJson
  | withUndefinedAndJsonNilToUndefined
  deriving DecidableEq

namespace Shape

def all : List Shape :=
  [.plain, .withUndefined, .withJson, .withUndefinedAndJson, .withUndefinedAndJsonNilToUndefined]

def name : Shape → String
  | .plain => "plain"
  | .withUndefined => "with-undefined"
  | .withJson => "with-json"
  | .withUndefinedAndJson => "with-undefined-and-json"
  | .withUndefinedAndJsonNilToUndefined => "with-undefined-and-json-nil-to-undefined"

def ofName? (text : String) : Option Shape :=
  all.find? fun shape => shape.name == text

def includes : Shape → Capability → Bool
  | _, .base => true
  | _, .strictLookup => true
  | .withUndefined, .fallbackLookup => true
  | .withUndefinedAndJson, .fallbackLookup => true
  | .withUndefinedAndJsonNilToUndefined, .fallbackLookup => true
  | _, .fallbackLookup => false
  | .withJson, .jsonCodec => true
  | .withUndefinedAndJson, .jsonCodec => true
  | .withUndefinedAndJsonNilToUndefined, .jsonCodec => true
  | _, .jsonCodec => false
  | .withUndefinedAndJsonNilToUndefined, .nilToUndefined => true
  | _, .nilToUndefined => false

def capabilities (shape : Shape) : List Capability :=
  Capability.all.filter shape.includes

end Shape

/-- What decoding does with input that names no value. -/
inductive DecodePolicy where
  | strict
  | nilToUndefined
  deriving DecidableEq

def DecodePolicy.name : DecodePolicy → String
  | .strict => "strict"
  | .nilToUndefined => "nil-to-undefined"

end SealedEnum
