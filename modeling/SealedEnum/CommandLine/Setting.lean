import SealedEnum.CommandLine

namespace SealedEnum.CommandLine

/-! The options of the tool and of its subcommands. -/

inductive Setting where
  | config
  | verbose
  | quiet
  | help
  | version
  | selection
  | check
  | dryRun
  | typeName
  | package
  | values
  | undefinedValue
  | json
  | nilToUndefined
  | licenseFile
  | destination
  | format
  | force
  deriving DecidableEq

namespace Setting

def longName : Setting → String
  | .config => "config"
  | .verbose => "verbose"
  | .quiet => "quiet"
  | .help => "help"
  | .version => "version"
  | .selection => "only"
  | .check => "check"
  | .dryRun => "dry-run"
  | .typeName => "type"
  | .package => "package"
  | .values => "values"
  | .undefinedValue => "undefined"
  | .json => "json"
  | .nilToUndefined => "nil-to-undefined"
  | .licenseFile => "copyright-file"
  | .destination => "destination"
  | .format => "format"
  | .force => "force"

def letter? : Setting → Option Char
  | .config => some 'c'
  | .verbose => some 'v'
  | .quiet => some 'q'
  | .help => some 'h'
  | .version => some 'V'
  | .destination => some 'd'
  | .force => some 'f'
  | _ => none

def takesValue : Setting → Bool
  | .config => true
  | .selection => true
  | .typeName => true
  | .package => true
  | .values => true
  | .undefinedValue => true
  | .licenseFile => true
  | .destination => true
  | .format => true
  | _ => false

/-- Lists grow and verbosity rises where their option is repeated. -/
def mayRepeat : Setting → Bool
  | .verbose => true
  | .selection => true
  | .values => true
  | _ => false

def isPath : Setting → Bool
  | .config => true
  | .licenseFile => true
  | .destination => true
  | _ => false

end Setting

def SummaryFormat.ofName? (text : String) : Option SummaryFormat :=
  [SummaryFormat.pretty, .json].find? fun format => format.name == text

/-- Paths are not empty, and formats are spelled exactly. -/
def Setting.accepts (setting : Setting) (value : String) : Bool :=
  if setting.isPath then !value.isEmpty
  else if setting = .format then (SummaryFormat.ofName? value).isSome
  else true

inductive Subcommand where
  | generate
  | emit
  | validate
  | inspect
  | init
  deriving DecidableEq

namespace Subcommand

def all : List Subcommand :=
  [.generate, .emit, .validate, .inspect, .init]

def name : Subcommand → String
  | .generate => "generate"
  | .emit => "emit"
  | .validate => "validate"
  | .inspect => "inspect"
  | .init => "init"

def ofName? (text : String) : Option Subcommand :=
  all.find? fun subcommand => subcommand.name == text

def ownSettings : Subcommand → List Setting
  | .generate => [.selection, .check, .dryRun]
  | .emit =>
      [.typeName, .package, .values, .undefinedValue, .json, .nilToUndefined, .licenseFile,
        .destination, .dryRun]
  | .validate => []
  | .inspect => [.format]
  | .init => [.force]

end Subcommand

/-- Options that may stand before and behind a subcommand's name. -/
def globalSettings : List Setting :=
  [.config, .verbose, .quiet, .help, .version]

/-- Where a word stands: before any subcommand's name, or behind one. -/
inductive Scope where
  | tool
  | within (subcommand : Subcommand)
  deriving DecidableEq

def Scope.settings : Scope → List Setting
  | .tool => globalSettings
  | .within subcommand => subcommand.ownSettings ++ globalSettings

end SealedEnum.CommandLine
