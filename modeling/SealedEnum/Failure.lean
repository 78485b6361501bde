import SealedEnum.Path
import SealedEnum.Spec.Violation

namespace SealedEnum

/-! What can go wrong on the way from a configuration to files. -/

inductive IoError where
  | notFound
  | busy
  | notDirectory
  | isDirectory
  | invalidArgument
  | nameTooLong
  | nulInName
  | notUnicode
  | other (description : String)
  deriving DecidableEq

def IoError.message : IoError → String
  | .notFound => "No such file or directory (os error 2)"
  | .busy => "Device or resource busy (os error 16)"
  | .notDirectory => "Not a directory (os error 20)"
  | .isDirectory => "Is a directory (os error 21)"
  | .invalidArgument => "Invalid argument (os error 22)"
  | .nameTooLong => "File name too long (os error 36)"
  | .nulInName => "file name contained an unexpected NUL byte"
  | .notUnicode => "stream did not contain valid UTF-8"
  | .other description => description

inductive Failure where
  | spec (typeName : String) (violation : Violation)
  | license (path : Path) (error : IoError)
  | write (path : Path) (error : IoError)
  | missingParent (path : Path)
  | io (error : IoError)
  | config (description : String)
  | toml
  | json
  | variableNotSet (name : String)
  | sharedDestination (path : Path) (first second : String)
  | outOfDate (path : Path)
  | typeNotFound (typeName : String)
  deriving DecidableEq

/-- Stands for the description of a malformed document. -/
def malformedDocument : String :=
  "<toml>"

def Failure.message : Failure → String
  | .spec typeName violation => s!"Invalid enum specification for {typeName}: {violation.message}"
  | .license path error => s!"Could not read license file {path.text}: {error.message}"
  | .write path error => s!"Could not write {path.text}: {error.message}"
  | .missingParent path => s!"Parent directory of {path.text} does not exist"
  | .io error => s!"IO error: {error.message}"
  | .config description => s!"Configuration error: {description}"
  | .toml => s!"TOML error: {malformedDocument}"
  | .json => "JSON error: path contains invalid UTF-8 characters"
  | .variableNotSet name => s!"Environment variable not set: {name}"
  | .sharedDestination path first second =>
      s!"Destination {path.text} is shared by {first} and {second}"
  | .outOfDate path => s!"Generated file is out of date: {path.text}"
  | .typeNotFound typeName => s!"Type not found: {typeName}"

end SealedEnum
