import SealedEnum.Path

namespace SealedEnum

/-! What a command line asks for, and why one is refused. -/

inductive SummaryFormat where
  | pretty
  | json
  deriving DecidableEq

def SummaryFormat.name : SummaryFormat → String
  | .pretty => "pretty"
  | .json => "json"

structure GenerateOptions where
  selected : List String := []
  check : Bool := false
  dryRun : Bool := false
  deriving DecidableEq

structure EmitOptions where
  typeName : String
  package : String
  values : List String
  undefinedValue : Option String := none
  json : Bool := false
  nilToUndefined : Bool := false
  licenseFile : Option Path := none
  destination : Path
  dryRun : Bool := false
  deriving DecidableEq

inductive Command where
  | generate (options : GenerateOptions)
  | emit (options : EmitOptions)
  | validate
  | inspect (format : SummaryFormat)
  | init (force : Bool)
  deriving DecidableEq

structure CommandLine where
  config : Option Path := none
  verbosity : Nat := 0
  quiet : Bool := false
  command : Option Command := none
  deriving DecidableEq

namespace CommandLine

inductive Rejection where
  | helpRequested
  | versionRequested
  | argumentConflict
  | invalidSubcommand
  | invalidValue
  | missingArgument
  | tooManyValues
  | unknownArgument
  deriving DecidableEq

/-- Asking for help or for the version is no mistake. -/
def Rejection.exitCode : Rejection → Nat
  | .helpRequested => 0
  | .versionRequested => 0
  | _ => 2

def Rejection.description : Rejection → String
  | .helpRequested => "usage: enumerator [generate | emit | validate | inspect | init] [options]"
  | .versionRequested => "enumerator"
  | .argumentConflict => "an argument cannot be used with another one, or not twice"
  | .invalidSubcommand => "unrecognized subcommand"
  | .invalidValue => "a value is missing or invalid"
  | .missingArgument => "a required argument was not provided"
  | .tooManyValues => "an argument takes no value"
  | .unknownArgument => "unexpected argument"

end CommandLine

end SealedEnum
