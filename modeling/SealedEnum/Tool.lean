import SealedEnum.CommandLine.Parse
import SealedEnum.Config.Load
import SealedEnum.Generation
import SealedEnum.Starter
import SealedEnum.Summary

namespace SealedEnum

open SealedEnum.Text

/-! The commands of the tool. -/

variable {m : Type → Type} [Monad m] [Host m]

/-- Loads a configuration and says whether that succeeded. -/
def announceConfig (path : Option Path) : Run m LoadedConfig := do
  match ← Run.attempt (loadConfig path) with
  | .ok loaded =>
      Host.inform s!"Configuration loaded from {quoted loaded.path.text}"
      return loaded
  | .error failure =>
      Host.complain s!"Failed to load configuration: {failure.message}"
      throw failure

/-- Prints files instead of writing them. -/
def printAll (files : List RenderedFile) : m Unit :=
  files.forM fun file => Host.print s!"// ==== {file.path.text} ====\n{file.content}"

def reportChecked (file : CheckedFile) : m Unit :=
  if file.status = .upToDate then Host.inform s!"  {file.typeName}: up to date"
  else Host.complain s!"  {file.typeName}: {file.status.name} ({quoted file.path.text})"

/-- Fails with the first file that does not hold what it should. -/
def reportChecks (files : List CheckedFile) : Run m Unit := do
  (files.forM reportChecked : m Unit)
  match files.find? fun file => file.status ≠ .upToDate with
  | some file => throw (.outOfDate file.path)
  | none => Host.inform s!"All {files.length} generated files are up to date"

def reportGenerated (file : GeneratedFile) : m Unit :=
  Host.inform
    s!"  {file.typeName} [{file.shape.name}] -> {quoted file.path.text} ({file.bytesWritten} bytes)"

/-- Prints, checks or writes the files of some specifications. -/
def runSelected (options : GenerateOptions) (specs : List Spec) : Run m Unit := do
  if options.dryRun then
    printAll (m := m) (← renderAll specs)
  else if options.check then
    reportChecks (← checkAll specs)
  else
    let report ← generateAll specs
    (report.files.forM reportGenerated : m Unit)
    Host.inform "Enumerator code generation completed successfully"

def runGenerate (config : Option Path) (options : GenerateOptions) : Run m Unit := do
  Host.inform "Starting Enumerator code generation"
  let loaded ← announceConfig config
  let specs ← Run.ofExcept (selectOnly options.selected (← loaded.resolve))
  runSelected options specs

def EmitOptions.spec (options : EmitOptions) : Spec where
  destination := options.destination
  licenseFile := options.licenseFile
  package := options.package
  typeName := options.typeName
  values := options.values
  undefinedValue := options.undefinedValue
  json := ⟨options.json, options.nilToUndefined⟩

def runEmit (options : EmitOptions) : Run m Unit := do
  if options.dryRun then
    Host.print (← renderSpec options.spec)
  else
    let file ← generate options.spec
    Host.inform
      (s!"{file.typeName} [{file.shape.name}] written to {quoted file.path.text} "
        ++ s!"({file.bytesWritten} bytes)")

def reportViolation : Nat × Spec × Violation → m Unit
  | (_, spec, violation) => Host.complain s!"  {spec.typeName}: {violation.message}"

/-- Reports the specifications whose license cannot be read, and counts them. -/
def reportLicenses : List Spec → m Nat
  | [] => return 0
  | spec :: rest => do
      match ← (loadLicense spec.licenseFile : Run m (Option String)).run with
      | .ok _ => reportLicenses rest
      | .error failure => do
          Host.complain s!"  {spec.typeName}: {failure.message}"
          return (← reportLicenses rest) + 1

/-- Every fault is reported before the command fails. -/
def reportFaults (specs : List Spec) : Run m Unit := do
  let violations := Spec.violations specs
  (violations.forM reportViolation : m Unit)
  let faults := violations.length + (← reportLicenses (m := m) specs)
  if faults = 0 then
    Host.inform "Validation passed"
  else
    Host.complain s!"Validation failed with {faults} errors"
    throw (.config s!"{faults} validation errors across {specs.length} enums")

def validateLoaded (loaded : LoadedConfig) : Run m Unit := do
  Host.inform "  Configuration file: OK"
  let specs ← loaded.resolve
  Host.inform s!"  Destinations: OK ({specs.length} enums)"
  reportFaults specs

def runValidate (config : Option Path) : Run m Unit := do
  Host.inform "Validating Enumerator configuration"
  validateLoaded (← announceConfig config)

/-- A document for programs holds text alone, where an overview shows any path. -/
def printSummaries (summaries : List Summary) : SummaryFormat → Run m Unit
  | .pretty => Host.print (Summary.overview summaries)
  | .json => do
      if ← Host.areText (m := m) (summaries.map Summary.destination) then
        Host.print (Summary.document summaries)
      else throw .json

def runInspect (config : Option Path) (format : SummaryFormat) : Run m Unit := do
  let loaded ← announceConfig config
  let summaries ← Run.ofExcept (Summary.ofSpecs (← loaded.resolve))
  printSummaries summaries format

def runInit (config : Option Path) (force : Bool) : Run m Unit := do
  let path := config.getD ⟨configFileName⟩
  writeStarterConfig path force
  Host.inform "Enumerator initialized successfully!"
  Host.inform "Next steps:"
  Host.inform s!"  1. Edit {path.text} to describe your enums"
  Host.inform "  2. Run 'enumerator generate' to write the Go sources"

/-- Everything is generated where no command is named. -/
def CommandLine.run (commandLine : CommandLine) : Run m Unit :=
  match commandLine.command with
  | none => runGenerate commandLine.config {}
  | some (.generate options) => runGenerate commandLine.config options
  | some (.emit options) => runEmit options
  | some .validate => runValidate commandLine.config
  | some (.inspect format) => runInspect commandLine.config format
  | some (.init force) => runInit commandLine.config force

/-- Reads words in the environment of the machine. -/
def readCommandLine (words : List String) : m (Except CommandLine.Rejection CommandLine) := do
  let config ← Host.lookupPath CommandLine.configVariable
  return CommandLine.parse (config.map Path.text) words

end SealedEnum
