import SealedEnum.Model
import SealedEnum.Source.Comment
import SealedEnum.Source.File

namespace SealedEnum.Model

open SealedEnum.Source

/-! The source file of a model: a sealed interface, its singletons, lookups by name, and the
optional fallback lookup and JSON adapter. -/

/-- The value decoding falls back to, where the policy asks for one. -/
def decodeFallback (model : Model) : Option String :=
  model.undefined.filter fun _ => model.has .nilToUndefined

def imports (model : Model) : List String :=
  if !model.has .jsonCodec then []
  else if model.decodeFallback.isSome then ["encoding/json"]
  else ["encoding/json", "fmt"]

def registry (model : Model) : Registry where
  interface := model.names.interface
  base := model.names.base
  values := model.values

def baseDeclarations (model : Model) : List Declaration :=
  let names := model.names
  let adapter :=
    if model.has .jsonCodec then [s!"ToMarshallable() {names.marshallable}"] else []
  [.interface names.interface ([s!"{names.sealMethod}()", "String() string"] ++ adapter),
    .record names.base ["name string"],
    .method ⟨"b", names.base⟩ names.sealMethod "()" [],
    .method ⟨"b", names.base⟩ "String" "() string" ["return b.name"],
    .valueRegistry model.registry,
    .function "Values" s!"() []{names.interface}"
      [s!"values := make([]{names.interface}, len(allValues))",
        "copy(values, allValues)",
        "return values"]]

def strictLookup (model : Model) : Declaration :=
  .function "Of" s!"(name string) ({model.names.interface}, error)"
    ["if value, ok := allValuesByString[name]; ok \x7b",
      "\treturn value, nil",
      "\x7d",
      s!"return nil, {model.names.invalidNameConstructor}(name)"]

def fallbackLookup (model : Model) (undefined : String) : Declaration :=
  .function "OfOrUndefined" s!"(name string) {model.names.interface}"
    ["if value, ok := allValuesByString[name]; ok \x7b",
      "\treturn value",
      "\x7d",
      s!"return {undefined}"]

/-- Absent and null input decode to no value, and an unknown name is an error. -/
def strictDecodeBody (model : Model) : List String :=
  let failure :=
    s!"fmt.Errorf(\"could not unmarshal {model.typeName} from JSON\\n%w\", err)"
  ["if len(jsonBytes) == 0 || string(jsonBytes) == \"null\" \x7b",
    "\tm.en = nil",
    "\treturn nil",
    "\x7d",
    "",
    "var name string",
    "if err := json.Unmarshal(jsonBytes, &name); err != nil \x7b",
    s!"\treturn {failure}",
    "\x7d",
    "",
    "value, err := Of(name)",
    "if err != nil \x7b",
    s!"\treturn {failure}",
    "\x7d",
    "m.en = value",
    "return nil"]

/-- Whatever names no value decodes to the undefined one. -/
def fallbackDecodeBody (undefined : String) : List String :=
  ["if len(jsonBytes) == 0 || string(jsonBytes) == \"null\" \x7b",
    s!"\tm.en = {undefined}",
    "\treturn nil",
    "\x7d",
    "",
    "var name string",
    "if err := json.Unmarshal(jsonBytes, &name); err != nil \x7b",
    s!"\tm.en = {undefined}",
    "\treturn nil",
    "\x7d",
    "",
    "m.en = OfOrUndefined(name)",
    "return nil"]

def decodeBody (model : Model) : List String :=
  match model.decodeFallback with
  | some undefined => fallbackDecodeBody undefined
  | none => model.strictDecodeBody

def jsonDeclarations (model : Model) : List Declaration :=
  let names := model.names
  [.record names.marshallable [s!"en {names.interface}"],
    .method ⟨"m", names.marshallable⟩ "MarshalJSON" "() ([]byte, error)"
      ["if m.en == nil \x7b",
        "\treturn []byte(\"null\"), nil",
        "\x7d",
        "return json.Marshal(m.en.String())"],
    .method ⟨"m", "*" ++ names.marshallable⟩ "UnmarshalJSON" "(jsonBytes []byte) error"
      model.decodeBody,
    .method ⟨"b", names.base⟩ "ToMarshallable" s!"() {names.marshallable}"
      [s!"return {names.marshallable}\x7ben: b\x7d"],
    .method ⟨"m", names.marshallable⟩ "FromMarshallable" s!"() {names.interface}"
      ["return m.en"]]

def errorDeclarations (model : Model) : List Declaration :=
  let names := model.names
  [.record names.invalidNameError ["name string"],
    .method ⟨"e", names.invalidNameError⟩ "Error" "() string"
      [s!"return \"invalid {model.typeName} name: \" + e.name"],
    .method ⟨"e", names.invalidNameError⟩ "Name" "() string" ["return e.name"],
    .function names.invalidNameConstructor s!"(name string) {names.invalidNameError}"
      [s!"return {names.invalidNameError}\x7bname: name\x7d"]]

def declarations (model : Model) : List Declaration :=
  model.baseDeclarations
    ++ [model.strictLookup]
    ++ (model.undefined.filter fun _ => model.has .fallbackLookup).toList.map
      model.fallbackLookup
    ++ (if model.has .jsonCodec then model.jsonDeclarations else [])
    ++ model.errorDeclarations

def file (model : Model) : File where
  header := model.license.bind commentBlock
  package := model.package
  imports := model.imports
  declarations := model.declarations

/-- The text of the file, as far as rendering comes to its end. -/
def render (model : Model) : String :=
  model.file.text

/-- Whether rendering comes to its end, which nothing but padding prevents. -/
def isRenderable (model : Model) : Bool :=
  model.registry.isPaddable

end SealedEnum.Model
