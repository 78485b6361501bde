import SealedEnum.Config
import SealedEnum.Toml.Document

namespace SealedEnum

open SealedEnum.Toml

/-!
Settings read from a document. A group of settings is a table, or an array of its settings in their
order. Settings nobody knows are passed over.
-/

namespace Toml.Value

def string? : Value → Option String
  | .string text => some text
  | _ => none

def boolean? : Value → Option Bool
  | .boolean value => some value
  | _ => none

def items? : Value → Option (List Value)
  | .array items => some items
  | .tables items => some items
  | _ => none

def strings? (value : Value) : Option (List String) :=
  value.items?.bind fun items => items.mapM string?

/-- The settings of a group by name. -/
def settings? (names : List String) : Value → Option Entries
  | .table _ entries =>
      if entriesRepresentable (entries.filter fun entry => !names.contains entry.1) then
        some entries
      else none
  | .array items => some (names.zip items)
  | .tables items => some (names.zip items)
  | .moment => some []
  | _ => none

end Toml.Value

private def setting? {α : Type} (settings : Entries) (name : String) (default : α)
    (read : Value → Option α) : Option α :=
  match settings.lookup name with
  | some value => read value
  | none => some default

private def requiredSetting? {α : Type} (settings : Entries) (name : String)
    (read : Value → Option α) : Option α :=
  (settings.lookup name).bind read

private def optionalText? (settings : Entries) (name : String) : Option (Option String) :=
  setting? settings name none fun value => value.string?.map some

def JsonOptions.ofToml? (value : Value) : Option JsonOptions := do
  let settings ← value.settings? ["generate", "nil_to_undefined"]
  let generate ← setting? settings "generate" false Value.boolean?
  let nilToUndefined ← setting? settings "nil_to_undefined" false Value.boolean?
  return { generate, nilToUndefined }

/-- The options of every format; JSON is the only one. -/
def JsonOptions.ofMarshalling? (value : Value) : Option JsonOptions := do
  let settings ← value.settings? ["json"]
  setting? settings "json" {} JsonOptions.ofToml?

def GeneralSettings.ofToml? (value : Value) : Option GeneralSettings := do
  let settings ← value.settings? ["output_dir", "copyright_file"]
  let outputDirectory ← setting? settings "output_dir" "." Value.string?
  let licenseFile ← optionalText? settings "copyright_file"
  return { outputDirectory, licenseFile }

def EnumSettings.ofToml? (value : Value) : Option EnumSettings := do
  let settings ← value.settings?
    ["type_name", "package", "values", "undefined_value", "destination", "copyright_file",
      "marshalling"]
  let typeName ← requiredSetting? settings "type_name" Value.string?
  let package ← requiredSetting? settings "package" Value.string?
  let values ← requiredSetting? settings "values" Value.strings?
  let undefinedValue ← optionalText? settings "undefined_value"
  let destination ← optionalText? settings "destination"
  let licenseFile ← optionalText? settings "copyright_file"
  let json ← setting? settings "marshalling" {} JsonOptions.ofMarshalling?
  return { typeName, package, values, undefinedValue, destination, licenseFile, json }

def Config.ofToml? (text : String) : Option Config := do
  let root ← document? text
  let settings ← (Value.table .header root).settings? ["general", "enums"]
  let general ← setting? settings "general" {} GeneralSettings.ofToml?
  let enums ← setting? settings "enums" [] fun value =>
    value.items?.bind fun items => items.mapM EnumSettings.ofToml?
  return { general, enums }

end SealedEnum
