import SealedEnum.CommandLine.Reading

namespace SealedEnum.CommandLine

/-! Command lines read from words. -/

def configVariable : String := "ENUMERATOR_CONFIG"

def highestVerbosity : Nat := 255

namespace Reading

/-- Ends a scope. A variable may stand in for the path of the configuration, and it must not be
empty where it does. -/
def finish (reading : Reading) (variableValue : Option String) : Except Rejection Reading := do
  let reading ← reading.release
  if !reading.isGiven .config && variableValue = some "" then throw .invalidValue
  if reading.isGiven .check && reading.isGiven .dryRun then throw .argumentConflict
  if reading.isGiven .nilToUndefined && !reading.isGiven .json then throw .missingArgument
  return reading

def required (reading : Reading) (setting : Setting) : Except Rejection String :=
  match reading.value? setting with
  | some value => .ok value
  | none => .error .missingArgument

def emitOptions (reading : Reading) : Except Rejection EmitOptions := do
  if !reading.isGiven .values then throw .missingArgument
  return {
    typeName := ← reading.required .typeName
    package := ← reading.required .package
    values := reading.list .values
    undefinedValue := reading.value? .undefinedValue
    json := reading.isGiven .json
    nilToUndefined := reading.isGiven .nilToUndefined
    licenseFile := (reading.value? .licenseFile).map Path.mk
    destination := ⟨← reading.required .destination⟩
    dryRun := reading.isGiven .dryRun }

def summaryFormat (reading : Reading) : SummaryFormat :=
  ((reading.value? .format).bind SummaryFormat.ofName?).getD .pretty

def command (reading : Reading) : Subcommand → Except Rejection Command
  | .generate =>
      .ok (.generate
        ⟨reading.list .selection, reading.isGiven .check, reading.isGiven .dryRun⟩)
  | .emit => reading.emitOptions.map Command.emit
  | .validate => .ok .validate
  | .inspect => .ok (.inspect reading.summaryFormat)
  | .init => .ok (.init (reading.isGiven .force))

def verbosity (reading : Reading) : Nat :=
  min highestVerbosity (reading.count .verbose)

end Reading

/-- What is said behind a subcommand's name hides what is said before it. -/
def ofReadings (variableValue : Option String) (outer inner : Reading) (command : Option Command) :
    CommandLine where
  config := (inner.value? .config <|> outer.value? .config <|> variableValue).map Path.mk
  verbosity := if inner.isGiven .verbose then inner.verbosity else outer.verbosity
  quiet := inner.isGiven .quiet || outer.isGiven .quiet
  command := command

/-- The words behind a subcommand's name are judged before those in front of it. -/
def parse (variableValue : Option String) (words : List String) :
    Except Rejection CommandLine := do
  match ← Scope.tool.read {} words with
  | (outer, none) => return ofReadings variableValue (← outer.finish variableValue) {} none
  | (outer, some (subcommand, rest)) =>
      let (inner, _) ← (Scope.within subcommand).read {} rest
      let inner ← inner.finish variableValue
      let command ← inner.command subcommand
      return ofReadings variableValue (← outer.finish variableValue) inner (some command)

end SealedEnum.CommandLine
