import SealedEnum.Host.Session

namespace SealedEnum

/-! Disks prepared and looked over from outside. -/

namespace Disk

def empty : Disk := ⟨[]⟩

/-- The place a relative path spells, whatever is there. -/
def placeBelow (start : Place) (path : Path) : Place :=
  (segments path).foldl (fun place segment =>
    if segment = "." then place
    else if segment = ".." then place.dropLast
    else place ++ [segment]) start

/-- Adds a directory and those it lies in, as far as they are missing. -/
def addDirectory (disk : Disk) (place : Place) : Disk :=
  let above := (List.range (place.length + 1)).map place.take
  above.foldl (fun disk place =>
    if (disk.lookup place).isSome then disk else disk.put place .directory) disk

/-- Adds a file and the directories it lies in. -/
def addFile (disk : Disk) (place : Place) (content : ByteArray) : Disk :=
  (disk.addDirectory place.dropLast).put place (.file content)

/-- Removes an entry and everything below it. -/
def eraseTree (disk : Disk) (place : Place) : Disk :=
  ⟨disk.entries.filter fun old => !place.isPrefixOf old.1⟩

def fileText? (disk : Disk) (place : Place) : Option String :=
  match disk.lookup place with
  | some (.file content) => String.fromUTF8? content
  | _ => none

private def listedName (start : Place) : Place × Entry → String
  | (place, entry) =>
      String.intercalate "/" (place.drop start.length)
        ++ match entry with
          | .directory => "/"
          | .file _ => ""

/-- The paths of all entries below a directory, in order; directories end in a slash. -/
def listing (disk : Disk) (start : Place) : List String :=
  let below := disk.entries.filter fun (place, _) =>
    start.isPrefixOf place && start.length < place.length && !isRemoved place
  (below.map (listedName start)).mergeSort fun left right => left ≤ right

end Disk

namespace Session

/-- A session in a directory that holds nothing. -/
def startingIn (directory : Place) (environment : Variables) : Session where
  disk := Disk.empty.addDirectory directory
  directory := directory
  environment := environment

/-- Removes an entry and everything below it. A working directory among it stays in use, empty and
with the directories above it. -/
def remove (place : Place) (session : Session) : Session :=
  let disk := session.disk.eraseTree place
  if place.isPrefixOf session.directory then
    let depth := session.directory.length + 1 - place.length
    let directory := place.dropLast ++ List.replicate depth ""
    { session with disk := disk.addDirectory directory, directory }
  else { session with disk }

def changeVariable (name : String) (value : Option String) (session : Session) : Session :=
  { session with environment := session.environment.set name value }

end Session

end SealedEnum
