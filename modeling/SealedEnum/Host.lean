import SealedEnum.Failure

namespace SealedEnum

/-! What a run of the program asks of the machine it runs on. -/

inductive FileKind where
  | file
  | directory
  deriving DecidableEq

inductive Level where
  | error
  | warning
  | information
  deriving DecidableEq

def Level.name : Level → String
  | .error => "ERROR"
  | .warning => "WARN"
  | .information => "INFO"

structure Event where
  level : Level
  message : String
  fields : List (String × String) := []
  deriving DecidableEq

def Event.text (event : Event) : String :=
  event.level.name ++ " " ++ event.message
    ++ String.join (event.fields.map fun (name, value) => s!" {name}={value}")

/-- A file that is to take the place of another one in its directory. -/
structure TemporaryFile where
  directory : Path
  name : String
  deriving DecidableEq

def TemporaryFile.path (file : TemporaryFile) : Path :=
  file.directory.join ⟨file.name⟩

class Host (m : Type → Type) where
  /-- A working directory that was removed has no path any more. -/
  workingDirectory : m (Except IoError Path)
  /-- The values of some variables, as far as they are set to text. -/
  lookupFor : List String → m (String → Option String)
  /-- The path a variable is set to, which need not be text. -/
  lookupPath : String → m (Option Path)
  /-- Names are bytes. Those that are no text are known by a text that stands for them, and a path
  with such a name in it is no text either. -/
  isText : Path → m Bool
  setVariable : String → String → m Unit
  kind? : Path → m (Option FileKind)
  read : Path → m (Except IoError ByteArray)
  /-- Creates a file or replaces its content. -/
  write : Path → ByteArray → m (Except IoError Unit)
  /-- Creates an empty file in a directory, under a name that nothing there has. -/
  createTemporary : Path → m (Except IoError TemporaryFile)
  fill : TemporaryFile → ByteArray → m (Except IoError Unit)
  /-- Moves a temporary file to a path, over any file there. -/
  persist : TemporaryFile → Path → m (Except IoError Unit)
  discard : TemporaryFile → m Unit
  log : Event → m Unit
  print : String → m Unit

/-- A run that may fail; what it did before it failed remains done. -/
abbrev Run (m : Type → Type) (α : Type) := ExceptT Failure m α

/-- Runs to the end in any case. -/
def Run.attempt {m : Type → Type} [Monad m] {α : Type} (run : Run m α) :
    Run m (Except Failure α) :=
  ExceptT.lift (ExceptT.run run)

/-- Fails where a value could not be computed. -/
def Run.ofExcept {m : Type → Type} [Monad m] {α : Type} (result : Except Failure α) :
    Run m α :=
  ExceptT.mk (pure result)

/-- A run that may fail asks the machine below it. -/
instance {m : Type → Type} [Monad m] [Host m] : Host (Run m) where
  workingDirectory := ExceptT.lift Host.workingDirectory
  lookupFor names := ExceptT.lift (Host.lookupFor names)
  lookupPath name := ExceptT.lift (Host.lookupPath name)
  isText path := ExceptT.lift (Host.isText path)
  setVariable name value := ExceptT.lift (Host.setVariable name value)
  kind? path := ExceptT.lift (Host.kind? path)
  read path := ExceptT.lift (Host.read path)
  write path content := ExceptT.lift (Host.write path content)
  createTemporary directory := ExceptT.lift (Host.createTemporary directory)
  fill file content := ExceptT.lift (Host.fill file content)
  persist file destination := ExceptT.lift (Host.persist file destination)
  discard file := ExceptT.lift (Host.discard file)
  log event := ExceptT.lift (Host.log event)
  print text := ExceptT.lift (Host.print text)

/-- Names of temporary files: hidden, and different for different attempts. -/
def temporaryName (attempt : Nat) : String :=
  s!".tmp{100000 + attempt}"

namespace Host

variable {m : Type → Type} [Monad m] [Host m]

def exists? (path : Path) : m Bool := do
  return (← kind? path).isSome

def isDirectory (path : Path) : m Bool := do
  return (← kind? path) = some .directory

def isFile (path : Path) : m Bool := do
  return (← kind? path) = some .file

def areText : List Path → m Bool
  | [] => return true
  | path :: rest => do
      if ← isText path then areText rest else return false

/-- The content of a file that holds text. -/
def readText (path : Path) : m (Except IoError String) := do
  match ← read path with
  | .error error => return .error error
  | .ok bytes =>
      match String.fromUTF8? bytes with
      | some text => return .ok text
      | none => return .error .notUnicode

def inform (message : String) : m Unit :=
  log ⟨.information, message, []⟩

def complain (message : String) : m Unit :=
  log ⟨.error, message, []⟩

end Host

end SealedEnum
