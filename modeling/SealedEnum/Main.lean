import SealedEnum.Tool

open SealedEnum

/-! The tool on a real machine. -/

namespace SealedEnum.Machine

/-- Variables set during a run, over those of the environment, and how much is logged. -/
structure Settings where
  assigned : List (String × String) := []
  quiet : Bool := false

abbrev Action := StateT Settings IO

/-- Some codes of the system come as their complement. -/
private def systemCode (code : UInt32) : Nat :=
  if code.toNat < 0x80000000 then code.toNat else 0x100000000 - code.toNat

private def ioError (code : UInt32) (details : String) : IoError :=
  match systemCode code with
  | 2 => .notFound
  | 16 => .busy
  | 20 => .notDirectory
  | 21 => .isDirectory
  | 22 => .invalidArgument
  | 36 => .nameTooLong
  | number => .other s!"{details} (os error {number})"

private def describe : IO.Error → IoError
  | .noFileOrDirectory _ code details => ioError code details
  | .inappropriateType _ code details => ioError code details
  | .invalidArgument _ code details => ioError code details
  | .resourceBusy code details => ioError code details
  | .permissionDenied _ code details => ioError code details
  | .alreadyExists _ code details => ioError code details
  | .resourceExhausted _ code details => ioError code details
  | .noSuchThing _ code details => ioError code details
  | .unsatisfiedConstraints code details => ioError code details
  | .otherError code details => ioError code details
  | error => .other (toString error)

private def attempt {α : Type} (action : IO α) : IO (Except IoError α) := do
  try
    return .ok (← action)
  catch error =>
    return .error (describe error)

private def opens (name : String) : IO Bool := do
  match ← attempt (IO.FS.Handle.mk name .read) with
  | .ok _ => return true
  | .error _ => return false

/-- Only a directory has an entry for itself. -/
private def kindOf (path : Path) : IO (Option FileKind) := do
  if path.isEmpty then return none
  if ← opens (path.text ++ "/.") then return some .directory
  return if ← opens path.text then some .file else none

/-- Tries one name after the other, as many times as there are attempts. -/
private def createFresh (directory : Path) : Nat → Nat → IO (Except IoError TemporaryFile)
  | 0, _ => return .error (.other "no free name for a temporary file")
  | attempts + 1, number => do
      let file : TemporaryFile := ⟨directory, temporaryName number⟩
      match ← attempt (IO.FS.Handle.mk file.path.text .writeNew) with
      | .ok _ => return .ok file
      | .error error =>
          if ← opens file.path.text then createFresh directory attempts (number + 1)
          else return .error error

/-- A working directory cannot be told where it was removed. -/
private def whereabouts : IO (Except IoError Path) := do
  match ← attempt IO.currentDir with
  | .ok directory => return .ok ⟨directory.toString⟩
  | .error _ => return .error .notFound

/-- Temporary files have absolute paths, which stay theirs whatever becomes of the directory. -/
private def createIn (directory : Path) : IO (Except IoError TemporaryFile) := do
  if directory.isAbsolute then createFresh directory 1000 0
  else
    match ← whereabouts with
    | .error error => return .error error
    | .ok here => createFresh (here.join directory) 1000 0

private def valueOf (name : String) : Action (String × Option String) := do
  match (← get).assigned.lookup name with
  | some value => return (name, some value)
  | none => return (name, ← IO.getEnv name)

instance : Host Action where
  workingDirectory := whereabouts
  lookupFor names := do
    let values ← names.mapM valueOf
    return fun name => (values.lookup name).join
  lookupPath name := do return (← valueOf name).2.map Path.mk
  isText _ := return true
  setVariable name value := modify fun settings =>
    { settings with assigned := (name, value) :: settings.assigned }
  kind? path := kindOf path
  read path := attempt (IO.FS.readBinFile path.text)
  write path content := attempt (IO.FS.writeBinFile path.text content)
  createTemporary directory := createIn directory
  fill file content := attempt (IO.FS.writeBinFile file.path.text content)
  persist file destination := attempt (IO.FS.rename file.path.text destination.text)
  discard file := discard (attempt (IO.FS.removeFile file.path.text))
  log event := do
    if !(← get).quiet || event.level = .error then IO.eprintln event.text
  print text := IO.print text

/-- Runs a command line and returns the exit code. -/
def runWords (words : List String) : Action UInt32 := do
  match ← readCommandLine words with
  | .error rejection =>
      if rejection.exitCode = 0 then IO.println rejection.description
      else IO.eprintln s!"error: {rejection.description}"
      return rejection.exitCode.toUInt32
  | .ok commandLine => do
      set { ← get with quiet := commandLine.quiet }
      match ← ExceptT.run (m := Action) commandLine.run with
      | .ok () => return 0
      | .error failure =>
          Host.complain failure.message
          return 1

end SealedEnum.Machine

def main (words : List String) : IO UInt32 := do
  let (code, _) ← (SealedEnum.Machine.runWords words).run {}
  return code
