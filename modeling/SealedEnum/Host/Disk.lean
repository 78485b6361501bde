import SealedEnum.Host

namespace SealedEnum

/-! Files and directories as a value, and the operations of a file system on it. -/

/-- The names that lead to an entry from the root. -/
abbrev Place := List String

inductive Entry where
  | directory
  | file (content : ByteArray)

instance : DecidableEq Entry
  | .directory, .directory => isTrue rfl
  | .directory, .file _ => isFalse nofun
  | .file _, .directory => isFalse nofun
  | .file left, .file right =>
      decidable_of_iff (left.data = right.data)
        ⟨fun h => congrArg Entry.file (ByteArray.ext h), fun h => by cases h; rfl⟩

def Entry.kind : Entry → FileKind
  | .directory => .directory
  | .file _ => .file

structure Disk where
  entries : List (Place × Entry)
  deriving DecidableEq

namespace Disk

/-- The root is always a directory. -/
def lookup (disk : Disk) (place : Place) : Option Entry :=
  if place = [] then some .directory else disk.entries.lookup place

/-- An entry keeps its position in the list when it is replaced. -/
def put (disk : Disk) (place : Place) (entry : Entry) : Disk :=
  if (disk.entries.lookup place).isSome then
    ⟨disk.entries.map fun old => if old.1 = place then (place, entry) else old⟩
  else ⟨disk.entries ++ [(place, entry)]⟩

def erase (disk : Disk) (place : Place) : Disk :=
  ⟨disk.entries.filter fun old => old.1 ≠ place⟩

/-- The parts of a path between its slashes. -/
def segments (path : Path) : List String :=
  ((Text.splitAt '/' path.text.toList).filter fun piece => piece ≠ []).map String.ofList

def endsInSlash (path : Path) : Bool :=
  path.text.toList.getLast? = some '/'

def longestName : Nat := 255

def longestPath : Nat := 4095

/-- One step of a walk, out of a directory. -/
def step (disk : Disk) (place : Place) (segment : String) : Except IoError Place :=
  match disk.lookup place with
  | none => .error .notFound
  | some (.file _) => .error .notDirectory
  | some .directory =>
      if segment = "." then .ok place
      else if segment = ".." then .ok place.dropLast
      else if longestName < segment.utf8ByteSize then .error .nameTooLong
      else .ok (place ++ [segment])

def walk (disk : Disk) : Place → List String → Except IoError Place
  | place, [] => .ok place
  | place, segment :: rest =>
      match disk.step place segment with
      | .ok next => disk.walk next rest
      | .error error => .error error

/-- A directory that is removed while it is in use keeps a place of its own, under the empty name,
which no path leads to. -/
def isRemoved (place : Place) : Bool :=
  place.contains ""

def pathTo (place : Place) : Except IoError Path :=
  if isRemoved place then .error .notFound
  else .ok ⟨"/" ++ String.intercalate "/" place⟩

def start (directory : Place) (path : Path) : Place :=
  if path.isAbsolute then [] else directory

/-- What makes a path unusable whatever is on the disk. -/
def pathError? (path : Path) : Option IoError :=
  if path.isEmpty then some .notFound
  else if longestPath < path.text.utf8ByteSize then some .nameTooLong
  else none

def holdsNul (path : Path) : Bool :=
  path.text.toList.contains '\x00'

/-- The place a path names, seen from a directory; a slash at its end asks for a directory. -/
def resolve (disk : Disk) (directory : Place) (path : Path) : Except IoError Place :=
  match pathError? path with
  | some error => .error error
  | none =>
      disk.walk (start directory path)
        (segments path ++ if endsInSlash path then ["."] else [])

def entryAt (disk : Disk) (directory : Place) (path : Path) : Except IoError Entry :=
  if holdsNul path then .error .nulInName
  else
    match disk.resolve directory path with
    | .error error => .error error
    | .ok place =>
        match disk.lookup place with
        | some entry => .ok entry
        | none => .error .notFound

def read (disk : Disk) (directory : Place) (path : Path) : Except IoError ByteArray :=
  match disk.entryAt directory path with
  | .error error => .error error
  | .ok .directory => .error .isDirectory
  | .ok (.file content) => .ok content

/-- The directory and the name a path ends in; the directory must be there, the name need not. -/
def target (disk : Disk) (directory : Place) (path : Path) : Except IoError (Place × String) :=
  match pathError? path with
  | some error => .error error
  | none =>
      let parts := segments path
      match disk.walk (start directory path) parts.dropLast with
      | .error error => .error error
      | .ok parent =>
          match disk.lookup parent with
          | none => .error .notFound
          | some (.file _) => .error .notDirectory
          | some .directory => .ok (parent, parts.getLast?.getD ".")

def isSpecialName (name : String) : Bool :=
  name = "." || name = ".."

/-- The disk after a file is created or its content replaced. -/
def write (disk : Disk) (directory : Place) (path : Path) (content : ByteArray) :
    Except IoError Disk :=
  if holdsNul path then .error .nulInName
  else
    match disk.target directory path with
    | .error error => .error error
    | .ok (parent, name) =>
        if isSpecialName name || endsInSlash path then .error .isDirectory
        else if isRemoved parent then .error .notFound
        else if longestName < name.utf8ByteSize then .error .nameTooLong
        else if disk.lookup (parent ++ [name]) = some .directory then .error .isDirectory
        else .ok (disk.put (parent ++ [name]) (.file content))

/-! Temporary files are known by the path of their directory. -/

/-- The first temporary name a directory does not hold. -/
def freshName (disk : Disk) (parent : Place) : String :=
  let attempts := List.range (disk.entries.length + 1)
  let isFree := fun attempt => (disk.lookup (parent ++ [temporaryName attempt])).isNone
  temporaryName ((attempts.find? isFree).getD 0)

/-- The place of an existing directory. -/
def directoryAt (disk : Disk) (directory : Place) (path : Path) : Except IoError Place :=
  if holdsNul path then .error .nulInName
  else
    match disk.resolve directory path with
    | .error error => .error error
    | .ok place =>
        match disk.lookup place with
        | none => .error .notFound
        | some (.file _) => .error .notDirectory
        | some .directory => .ok place

/-- A path as seen from the root. -/
def absolute (directory : Place) (path : Path) : Except IoError Path :=
  if path.isAbsolute then .ok path
  else (pathTo directory).map fun here => here.join path

/-- Why a directory takes no temporary files. They are made under their absolute paths, whatever
the directory is called. Temporary names stand for names that all have the length of the first, so
that this one tells whether a path to them is too long. -/
def temporaryError? (directory : Place) (above : Path) : Option IoError :=
  match absolute directory above with
  | .error error => some error
  | .ok above => pathError? (above.join ⟨temporaryName 0⟩)

/-- The disk with an empty file in a directory, under a new name. -/
def createTemporary (disk : Disk) (directory : Place) (above : Path) :
    Except IoError (TemporaryFile × Disk) :=
  match disk.directoryAt directory above with
  | .error error => .error error
  | .ok parent =>
      match temporaryError? directory above with
      | some error => .error error
      | none =>
          let name := disk.freshName parent
          .ok (⟨above, name⟩, disk.put (parent ++ [name]) (.file ByteArray.empty))

def temporaryPlace (disk : Disk) (directory : Place) (file : TemporaryFile) :
    Except IoError Place :=
  (disk.directoryAt directory file.directory).map fun parent => parent ++ [file.name]

def fill (disk : Disk) (directory : Place) (file : TemporaryFile) (content : ByteArray) :
    Except IoError Disk :=
  (disk.temporaryPlace directory file).map fun place => disk.put place (.file content)

/-- The disk after a temporary file takes a path's name, and the place of whatever file had it. -/
def persist (disk : Disk) (directory : Place) (file : TemporaryFile) (destination : Path) :
    Except IoError Disk :=
  if holdsNul destination then .error .invalidArgument
  else
    match disk.temporaryPlace directory file, disk.target directory destination with
    | .error error, _ => .error error
    | _, .error error => .error error
    | .ok old, .ok (parent, name) =>
        if isSpecialName name then .error .busy
        else if longestName < name.utf8ByteSize then .error .nameTooLong
        else if endsInSlash destination then .error .notDirectory
        else
          match disk.lookup old, disk.lookup (parent ++ [name]) with
          | some (.file _), some .directory => .error .isDirectory
          | some (.file content), _ =>
              .ok ((disk.erase old).put (parent ++ [name]) (.file content))
          | _, _ => .error .notFound

def discard (disk : Disk) (directory : Place) (file : TemporaryFile) : Disk :=
  match disk.temporaryPlace directory file with
  | .ok place => disk.erase place
  | .error _ => disk

end Disk

end SealedEnum
