import SealedEnum.Config.Load

namespace SealedEnum

/-! A configuration to start from. -/

variable {m : Type → Type} [Monad m] [Host m]

def starterConfig : String :=
  String.join ([
    "# Enumerator Configuration",
    "",
    "[general]",
    "# Base directory for enums without an explicit destination.",
    "# Files land in <output_dir>/<package>/<type_name>.go",
    "output_dir = \"$\x7bENUMERATOR_OUTPUT_DIR:-.\x7d\"",
    "",
    "# License text prepended to every generated file",
    "# copyright_file = \"LICENSE\"",
    "",
    "[[enums]]",
    "type_name = \"Color\"",
    "package = \"color\"",
    "values = [\"Undefined\", \"Red\", \"Green\", \"Blue\"]",
    "",
    "# Returned by OfOrUndefined for unknown names",
    "undefined_value = \"Undefined\"",
    "",
    "# Explicit output path, relative to this file",
    "# destination = \"internal/color/color.go\"",
    "",
    "[enums.marshalling.json]",
    "generate = true",
    "# Decode null, absent and unknown JSON to the undefined value",
    "nil_to_undefined = false"].map (· ++ "\n"))

/-- Whatever has the path already is kept unless it is to be replaced. -/
def writeStarterConfig (path : Path) (force : Bool) : Run m Unit := do
  if (← Host.exists? path) && !force then
    Host.complain s!"{path.text} already exists. Use --force to overwrite."
    throw (.config s!"{path.text} already exists")
  match ← Host.write path starterConfig.toUTF8 with
  | .error error => throw (.io error)
  | .ok () => Host.inform s!"Created {path.text}"

end SealedEnum
