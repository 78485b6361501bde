import SealedEnum.Host.Disk

namespace SealedEnum

/-! A machine as a value: its disk, its variables, and what was logged and printed. -/

/-- Values by name. A variable may be set to bytes that are no text. -/
structure Variables where
  entries : List (String × Option String)
  deriving DecidableEq

namespace Variables

def lookup? (values : Variables) (name : String) : Option String :=
  (values.entries.lookup name).join

def set (values : Variables) (name : String) (value : Option String) : Variables :=
  if (values.entries.lookup name).isSome then
    ⟨values.entries.map fun old => if old.1 = name then (name, value) else old⟩
  else ⟨values.entries ++ [(name, value)]⟩

def unset (values : Variables) (name : String) : Variables :=
  ⟨values.entries.filter fun old => old.1 ≠ name⟩

end Variables

structure Session where
  disk : Disk
  directory : Place
  environment : Variables
  events : List Event := []
  output : String := ""
  /-- The name that stands for names whose bytes are no text. -/
  foreignName : String := "\ufffd"

namespace Session

def workingDirectory (session : Session) : Except IoError Path :=
  Disk.pathTo session.directory

/-- Any bytes that a variable is set to make a path. -/
def lookupPath? (session : Session) (name : String) : Option Path :=
  (session.environment.entries.lookup name).map fun value => ⟨value.getD session.foreignName⟩

def isText (session : Session) (path : Path) : Bool :=
  (Disk.segments path).all fun name => name ≠ session.foreignName

/-- Keeps the disk as it is where the change fails. -/
def changeDisk (change : Disk → Except IoError Disk) (session : Session) :
    Except IoError Unit × Session :=
  match change session.disk with
  | .ok disk => (.ok (), { session with disk })
  | .error error => (.error error, session)

def createTemporary (directory : Path) (session : Session) :
    Except IoError TemporaryFile × Session :=
  match session.disk.createTemporary session.directory directory with
  | .ok (file, disk) => (.ok file, { session with disk })
  | .error error => (.error error, session)

end Session

instance : Host (StateM Session) where
  workingDirectory := fun session => (session.workingDirectory, session)
  lookupFor _ := fun session => (session.environment.lookup?, session)
  lookupPath name := fun session => (session.lookupPath? name, session)
  isText path := fun session => (session.isText path, session)
  setVariable name value := fun session =>
    ((), { session with environment := session.environment.set name (some value) })
  kind? path := fun session =>
    ((session.disk.entryAt session.directory path).toOption.map Entry.kind, session)
  read path := fun session => (session.disk.read session.directory path, session)
  write path content := fun session =>
    session.changeDisk fun disk => disk.write session.directory path content
  createTemporary directory := fun session => session.createTemporary directory
  fill file content := fun session =>
    session.changeDisk fun disk => disk.fill session.directory file content
  persist file destination := fun session =>
    session.changeDisk fun disk => disk.persist session.directory file destination
  discard file := fun session =>
    ((), { session with disk := session.disk.discard session.directory file })
  log event := fun session => ((), { session with events := session.events ++ [event] })
  print text := fun session => ((), { session with output := session.output ++ text })

end SealedEnum
