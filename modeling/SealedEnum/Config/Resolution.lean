import SealedEnum.Config
import SealedEnum.Text.SnakeCase

namespace SealedEnum

open SealedEnum.Text

/-! Settings resolved to specifications, relative to the directory of the configuration file. -/

structure LoadedConfig where
  path : Path
  config : Config
  deriving DecidableEq

/-- Two entries that would be written to one file. -/
structure SharedDestination where
  path : Path
  first : String
  second : String
  deriving DecidableEq

namespace LoadedConfig

def baseDirectory (loaded : LoadedConfig) : Path :=
  loaded.path.directory?.getD ⟨"."⟩

def destinationOf (loaded : LoadedConfig) (entry : EnumSettings) : Path :=
  match entry.destination with
  | some destination => loaded.baseDirectory.join ⟨destination⟩
  | none =>
      ((loaded.baseDirectory.join ⟨loaded.config.general.outputDirectory⟩).join
        ⟨entry.package⟩).join ⟨snakeCase entry.typeName ++ ".go"⟩

/-- An entry's own setting, even an empty one, hides the general one; an empty one means none. -/
def licenseFileOf (loaded : LoadedConfig) (entry : EnumSettings) : Option Path :=
  ((entry.licenseFile <|> loaded.config.general.licenseFile).filter fun file => !file.isEmpty).map
    fun file => loaded.baseDirectory.join ⟨file⟩

def specOf (loaded : LoadedConfig) (entry : EnumSettings) : Spec where
  destination := loaded.destinationOf entry
  licenseFile := loaded.licenseFileOf entry
  package := entry.package
  typeName := entry.typeName
  values := entry.values
  undefinedValue := entry.undefinedValue
  json := entry.json

/-- The first destination that agrees with an earlier one. -/
def sharedDestination? : List Spec → List Spec → Option SharedDestination
  | _, [] => none
  | earlier, spec :: rest =>
      match earlier.find? fun owner => owner.destination.agrees spec.destination with
      | some owner => some ⟨spec.destination, owner.typeName, spec.typeName⟩
      | none => sharedDestination? (earlier ++ [spec]) rest

def specs (loaded : LoadedConfig) : Except SharedDestination (List Spec) :=
  let resolved := loaded.config.enums.map loaded.specOf
  match sharedDestination? [] resolved with
  | some shared => .error shared
  | none => .ok resolved

end LoadedConfig

end SealedEnum
