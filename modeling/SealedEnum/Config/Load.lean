import SealedEnum.Config.OfToml
import SealedEnum.Config.Resolution
import SealedEnum.Config.Substitution
import SealedEnum.Config.VariableFile
import SealedEnum.Host
import SealedEnum.Text.Quoted

namespace SealedEnum

open SealedEnum.Text

/-! Configurations found, read and expanded. -/

variable {m : Type → Type} [Monad m] [Host m]

def configFileName : String := "enumerator.toml"

def variableFileName : String := ".env"

/-- The first of some directories' files of one name that passes a test. -/
def findIn (isWanted : Path → m Bool) (fileName : String) : List Path → m (Option Path)
  | [] => return none
  | directory :: above => do
      let candidate := directory.join ⟨fileName⟩
      if ← isWanted candidate then return some candidate
      findIn isWanted fileName above

/-- Searches a directory and then its parents, up to the root. -/
def findConfigFrom (directory : Path) : Run m Path := do
  match ← findIn (m := m) Host.exists? configFileName directory.ancestors with
  | some path => return path
  | none => do
      Host.complain
        s!"Configuration file '{configFileName}' not found in any parent directory."
      throw (.config s!"{configFileName} not found in current or any parent directory.")

/-- Applies the lines of a variable file one by one. Variables that are set to text keep their
values, and the first malformed line ends the file. -/
def applyLines : List (String × String) → List (Option String) → m Unit
  | _, [] => return ()
  | _, none :: _ => return ()
  | earlier, some line :: rest =>
      match VariableFile.parseLine line.toList with
      | none => return ()
      | some none => applyLines earlier rest
      | some (some assignment) => do
          let lookup ← Host.lookupFor (m := m) (assignment.name :: assignment.mentions)
          let value := assignment.text lookup earlier
          if (lookup assignment.name).isNone then Host.setVariable assignment.name value
          applyLines ((assignment.name, value) :: earlier) rest

/-- Reads the nearest variable file; a missing or unreadable one is passed over. -/
def loadVariables : m Unit := do
  match ← Host.workingDirectory with
  | .error _ => return ()
  | .ok directory =>
      match ← findIn (m := m) Host.isFile variableFileName directory.ancestors with
      | none => return ()
      | some path =>
          match ← Host.read path with
          | .error _ => return ()
          | .ok content => applyLines [] (VariableFile.lines content)

def Config.mentions (config : Config) : List String :=
  let settings := [some config.general.outputDirectory, config.general.licenseFile]
    ++ config.enums.flatMap fun entry => [entry.destination, entry.licenseFile]
  settings.flatMap fun setting =>
    match setting with
    | none => []
    | some text => Substitution.mentions text

def parseConfig (text : String) : Run m Config := do
  match Config.ofToml? text with
  | none =>
      Host.complain s!"Failed to parse TOML configuration: {malformedDocument}"
      throw .toml
  | some config =>
      let lookup ← Host.lookupFor config.mentions
      match config.expand lookup with
      | .ok expanded => return expanded
      | .error name =>
          Host.log ⟨.error, s!"Path variable unset in {configFileName}", [("variable", name)]⟩
          throw (.variableNotSet name)

def loadConfigFrom (path : Path) : Run m LoadedConfig := do
  Host.inform "Loading Enumerator configuration"
  loadVariables (m := m)
  match ← Host.readText path with
  | .error error =>
      Host.complain s!"Failed to read configuration file: {error.message}"
      throw (.io error)
  | .ok text =>
      let config ← parseConfig text
      Host.inform s!"Configuration loaded successfully ({config.enums.length} enums)"
      return ⟨path, config⟩

/-- Without a path, the nearest configuration file is looked for. -/
def loadConfig : Option Path → Run m LoadedConfig
  | some path => loadConfigFrom path
  | none => do
      match ← Host.workingDirectory with
      | .error error => throw (.io error)
      | .ok directory => do
          let path ← findConfigFrom directory
          Host.inform s!"Found configuration file at: {quoted path.text}"
          loadConfigFrom path

def LoadedConfig.resolve (loaded : LoadedConfig) : Run m (List Spec) :=
  match loaded.specs with
  | .ok specs => return specs
  | .error shared => throw (.sharedDestination shared.path shared.first shared.second)

end SealedEnum
