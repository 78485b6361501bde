import SealedEnum.Source.Column

namespace SealedEnum.Source

/-! The package-level declarations of a generated file and how they are written. -/

/-- The singletons of a sealed type, the list of them and the table from their names. -/
structure Registry where
  interface : String
  base : String
  values : List String
  deriving DecidableEq

namespace Registry

def singletonLines (registry : Registry) : List String :=
  let width := columnWidth registry.values
  registry.values.map fun value =>
    s!"\t{padTo width value} = {registry.base}\x7bname: \"{value}\"\x7d"

def listLines (registry : Registry) : List String :=
  [s!"\tallValues = []{registry.interface}\x7b"]
    ++ registry.values.map (fun value => s!"\t\t{value},")
    ++ ["\t\x7d"]

def key (value : String) : String :=
  value ++ ".String():"

def tableLines (registry : Registry) : List String :=
  let width := columnWidth (registry.values.map key)
  [s!"\tallValuesByString = map[string]{registry.interface}\x7b"]
    ++ registry.values.map (fun value => s!"\t\t{padTo width (key value)} {value},")
    ++ ["\t\x7d"]

/-- Whether the lines come about at all. -/
def isPaddable (registry : Registry) : Bool :=
  columnWidth registry.values ≤ widestColumn
    && columnWidth (registry.values.map key) ≤ widestColumn

def lines (registry : Registry) : List String :=
  ["var ("] ++ registry.singletonLines
    ++ [""] ++ registry.listLines
    ++ [""] ++ registry.tableLines
    ++ [")"]

def declares (registry : Registry) : List String :=
  registry.values ++ ["allValues", "allValuesByString"]

end Registry

structure Receiver where
  name : String
  type : String
  deriving DecidableEq

/-- Bodies are written one tab deeper than the declaration they belong to. -/
inductive Declaration where
  | interface (name : String) (methods : List String)
  | record (name : String) (fields : List String)
  | valueRegistry (registry : Registry)
  | function (name signature : String) (body : List String)
  | method (receiver : Receiver) (name signature : String) (body : List String)
  deriving DecidableEq

namespace Declaration

def indent (line : String) : String :=
  if line.isEmpty then line else "\t" ++ line

def braced (opening : String) (body : List String) : List String :=
  if body.isEmpty then [opening ++ " \x7b\x7d"]
  else [opening ++ " \x7b"] ++ body.map indent ++ ["\x7d"]

def lines : Declaration → List String
  | .interface name methods => braced s!"type {name} interface" methods
  | .record name fields => braced s!"type {name} struct" fields
  | .valueRegistry registry => registry.lines
  | .function name signature body => braced s!"func {name}{signature}" body
  | .method receiver name signature body =>
      braced s!"func ({receiver.name} {receiver.type}) {name}{signature}" body

/-- Methods belong to their receiver and add no package-level name. -/
def declares : Declaration → List String
  | .interface name _ => [name]
  | .record name _ => [name]
  | .valueRegistry registry => registry.declares
  | .function name _ _ => [name]
  | .method _ _ _ _ => []

end Declaration

end SealedEnum.Source
