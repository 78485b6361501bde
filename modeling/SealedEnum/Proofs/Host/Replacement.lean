import SealedEnum.Proofs.Generation.Rendering
import SealedEnum.Proofs.Host.Temporary
import SealedEnum.Writing

namespace SealedEnum

/-! Atomic writes: the destination gets its content, or the disk stays as it was. -/

namespace Disk

variable {disk changed : Disk} {directory parent : Place} {path : Path} {name : String}
  {content : ByteArray}

/-- A file can be written under the path, and this is where it goes. -/
structure Writable (disk : Disk) (directory : Place) (path : Path) (parent : Place)
    (name : String) : Prop where
  text : holdsNul path = false
  target : disk.target directory path = .ok (parent, name)
  ordinary : isSpecialName name = false
  short : name.utf8ByteSize ≤ longestName
  closed : endsInSlash path = false
  noDirectory : disk.lookup (parent ++ [name]) ≠ some .directory

theorem SameDirectories.writable (same : SameDirectories disk changed)
    (writable : disk.Writable directory path parent name) :
    changed.Writable directory path parent name where
  text := writable.text
  target := same.target_ok writable.target
  ordinary := writable.ordinary
  short := writable.short
  closed := writable.closed
  noDirectory := fun held => writable.noDirectory ((same _).mp held)

theorem Writable.write_eq (writable : disk.Writable directory path parent name)
    (there : isRemoved parent = false) :
    disk.write directory path content = .ok (disk.put (parent ++ [name]) (.file content)) := by
  have short : ¬ longestName < name.utf8ByteSize := Nat.not_lt.mpr writable.short
  simp [write, writable.text, writable.target, writable.ordinary, writable.closed, short,
    writable.noDirectory, there]

/-- Nothing new comes into a directory that was removed. -/
theorem write_eq_ok_iff :
    disk.write directory path content = .ok changed ↔
      ∃ parent name, disk.Writable directory path parent name ∧ isRemoved parent = false ∧
        changed = disk.put (parent ++ [name]) (.file content) := by
  constructor
  · intro written
    unfold write at written
    split at written
    · contradiction
    rename_i text
    cases leads : disk.target directory path with
    | error error => simp [leads] at written
    | ok target =>
        obtain ⟨parent, name⟩ := target
        rw [leads] at written
        dsimp only at written
        split at written
        · contradiction
        rename_i ordinary
        split at written
        · contradiction
        rename_i there
        split at written
        · contradiction
        rename_i short
        split at written
        · contradiction
        rename_i noDirectory
        simp only [Bool.or_eq_true, not_or, Bool.not_eq_true] at ordinary
        refine ⟨parent, name, ⟨by simpa using text, leads, ordinary.1, Nat.not_lt.mp short,
          ordinary.2, noDirectory⟩, by simpa using there, ?_⟩
        exact (Except.ok.inj written).symm
  · rintro ⟨parent, name, writable, there, rfl⟩
    exact writable.write_eq there

theorem Writable.sameDirectories (writable : disk.Writable directory path parent name) :
    SameDirectories disk (disk.put (parent ++ [name]) (.file content)) :=
  sameDirectories_put (by simp) writable.noDirectory

theorem directoryAt_eq_ok_iff :
    disk.directoryAt directory path = .ok parent ↔
      holdsNul path = false ∧ disk.resolve directory path = .ok parent ∧
        disk.lookup parent = some .directory := by
  unfold directoryAt
  split
  · rename_i text
    simp [text]
  rename_i text
  cases disk.resolve directory path with
  | error error => simp
  | ok place =>
      dsimp only
      cases held : disk.lookup place with
      | none => grind
      | some entry => cases entry <;> grind

theorem entryAt_eq_ok_iff {entry : Entry} :
    disk.entryAt directory path = .ok entry ↔
      holdsNul path = false ∧
        ∃ place, disk.resolve directory path = .ok place ∧ disk.lookup place = some entry := by
  unfold entryAt
  cases holdsNul path with
  | true => simp
  | false =>
      cases disk.resolve directory path with
      | error error => simp
      | ok place => cases held : disk.lookup place <;> simp [held]

theorem entryAt_eq_directory_iff :
    disk.entryAt directory path = .ok .directory ↔
      ∃ parent, disk.directoryAt directory path = .ok parent := by
  simp only [entryAt_eq_ok_iff, directoryAt_eq_ok_iff, exists_and_left]

theorem temporaryPlace_eq_ok_iff {file : TemporaryFile} {place : Place} :
    disk.temporaryPlace directory file = .ok place ↔
      ∃ parent, disk.directoryAt directory file.directory = .ok parent ∧
        parent ++ [file.name] = place := by
  unfold temporaryPlace
  cases disk.directoryAt directory file.directory <;> simp [Except.map]

theorem SameDirectories.resolve_ok (same : SameDirectories disk changed) {place : Place}
    (resolves : disk.resolve directory path = .ok place) :
    changed.resolve directory path = .ok place := by
  unfold resolve at resolves ⊢
  split
  · rename_i error unusable
    simp [unusable] at resolves
  · rename_i usable
    rw [usable] at resolves
    exact same.walk_ok resolves

theorem SameDirectories.directoryAt_ok (same : SameDirectories disk changed)
    (found : disk.directoryAt directory path = .ok parent) :
    changed.directoryAt directory path = .ok parent := by
  obtain ⟨text, resolves, inside⟩ := directoryAt_eq_ok_iff.mp found
  exact directoryAt_eq_ok_iff.mpr ⟨text, same.resolve_ok resolves, (same parent).mpr inside⟩

/-- A temporary file that is not there yet, and its place. -/
structure Spare (disk : Disk) (directory : Place) (file : TemporaryFile) (place : Place) :
    Prop where
  found : disk.temporaryPlace directory file = .ok place
  free : disk.lookup place = none

namespace Spare

variable {old : ByteArray} {file : TemporaryFile} {place : Place}

theorem sameDirectories (spare : disk.Spare directory file place) :
    SameDirectories disk (disk.put place (.file content)) := by
  apply sameDirectories_put (lookup_eq_none_iff.mp spare.free).1
  rw [spare.free]
  simp

theorem temporaryPlace_put (spare : disk.Spare directory file place) :
    (disk.put place (.file old)).temporaryPlace directory file = .ok place := by
  obtain ⟨parent, found, rfl⟩ := temporaryPlace_eq_ok_iff.mp spare.found
  exact temporaryPlace_eq_ok_iff.mpr ⟨parent, spare.sameDirectories.directoryAt_ok found, rfl⟩

theorem fill_put (spare : disk.Spare directory file place) :
    (disk.put place (.file old)).fill directory file content =
      .ok (disk.put place (.file content)) := by
  rw [fill, spare.temporaryPlace_put, Except.map, put_put spare.free]

theorem discard_put (spare : disk.Spare directory file place) :
    (disk.put place (.file old)).discard directory file = disk := by
  rw [discard, spare.temporaryPlace_put]
  exact erase_put spare.free _

end Spare

theorem persist_eq_ok_iff {file : TemporaryFile} {old : Place}
    (found : disk.temporaryPlace directory file = .ok old)
    (held : disk.lookup old = some (.file content)) :
    disk.persist directory file path = .ok changed ↔
      ∃ parent name, disk.Writable directory path parent name ∧
        changed = (disk.erase old).put (parent ++ [name]) (.file content) := by
  constructor
  · intro persisted
    unfold persist at persisted
    split at persisted
    · contradiction
    rename_i text
    cases leads : disk.target directory path with
    | error error => simp [found, leads] at persisted
    | ok target =>
        obtain ⟨parent, name⟩ := target
        rw [found, leads] at persisted
        dsimp only at persisted
        split at persisted
        · contradiction
        rename_i ordinary
        split at persisted
        · contradiction
        rename_i short
        split at persisted
        · contradiction
        rename_i closed
        rw [held] at persisted
        split at persisted
        · contradiction
        · rename_i moved source noDirectory
          obtain rfl : content = moved := by simpa using source
          refine ⟨parent, name, ⟨by simpa using text, leads, by simpa using ordinary,
            Nat.not_lt.mp short, by simpa using closed, noDirectory⟩, ?_⟩
          exact (Except.ok.inj persisted).symm
        · contradiction
  · rintro ⟨parent, name, writable, rfl⟩
    have short : ¬ longestName < name.utf8ByteSize := Nat.not_lt.mpr writable.short
    rw [persist, if_neg (by simp [writable.text]), found, writable.target]
    dsimp only
    rw [if_neg (by simp [writable.ordinary]), if_neg short, if_neg (by simp [writable.closed]),
      held]
    split
    · rename_i noDirectory
      exact absurd noDirectory writable.noDirectory
    · rename_i moved source _
      obtain rfl : content = moved := by simpa using source
      rfl
    · rename_i none _
      exact absurd rfl (none content)

/-- Persisting a new file has the effect of writing its content to the destination. -/
theorem Spare.persist_put {file : TemporaryFile} {place : Place}
    (spare : disk.Spare directory file place) :
    (disk.put place (.file content)).persist directory file path = .ok changed ↔
      ∃ parent name, disk.Writable directory path parent name ∧
        changed = disk.put (parent ++ [name]) (.file content) := by
  have held : (disk.put place (.file content)).lookup place = some (.file content) := by
    rw [lookup_put (lookup_eq_none_iff.mp spare.free).1, if_pos rfl]
  -- The new file is gone from its old place, so that only the destination has changed.
  rw [persist_eq_ok_iff spare.temporaryPlace_put held, erase_put spare.free]
  constructor
  · rintro ⟨parent, name, writable, moved⟩
    exact ⟨parent, name, spare.sameDirectories.symm.writable writable, moved⟩
  · rintro ⟨parent, name, writable, moved⟩
    exact ⟨parent, name, spare.sameDirectories.writable writable, moved⟩

theorem exists_spare (found : disk.directoryAt directory path = .ok parent) :
    disk.Spare directory ⟨path, disk.freshName parent⟩ (parent ++ [disk.freshName parent]) := by
  obtain ⟨attempt, fresh, free⟩ := exists_freshName disk parent
  rw [← fresh] at free
  exact ⟨temporaryPlace_eq_ok_iff.mpr ⟨parent, found, rfl⟩, free⟩

/-- What an atomic write makes of a disk. -/
def replace (disk : Disk) (directory : Place) (path : Path) (content : ByteArray) :
    Except Failure Disk :=
  match path.directory? with
  | none => .error (.missingParent path)
  | some above =>
      match disk.entryAt directory above with
      | .ok .directory =>
          let written := do
            let (file, created) ← disk.createTemporary directory above
            let filled ← created.fill directory file content
            filled.persist directory file path
          written.mapError (.write path)
      | _ => .error (.missingParent path)

/-- The file at a path can be replaced by way of a temporary file, and this is where it goes. -/
structure Replaceable (disk : Disk) (directory : Place) (path : Path) (parent : Place)
    (name : String) : Prop extends disk.Writable directory path parent name where
  beside : ∃ above room, path.directory? = some above ∧
    disk.directoryAt directory above = .ok room ∧
      temporaryError? directory above = none

theorem SameDirectories.replaceable (same : SameDirectories disk changed)
    (replaceable : disk.Replaceable directory path parent name) :
    changed.Replaceable directory path parent name where
  toWritable := same.writable replaceable.toWritable
  beside := by
    obtain ⟨above, room, lies, found, short⟩ := replaceable.beside
    exact ⟨above, room, lies, same.directoryAt_ok found, short⟩

theorem createTemporary_eq (found : disk.directoryAt directory path = .ok parent)
    (short : temporaryError? directory path = none) :
    disk.createTemporary directory path =
      .ok (⟨path, disk.freshName parent⟩,
        disk.put (parent ++ [disk.freshName parent]) (.file ByteArray.empty)) := by
  rw [createTemporary, found]
  dsimp only
  rw [short]

theorem createTemporary_eq_error {error : IoError}
    (found : disk.directoryAt directory path = .ok parent)
    (long : temporaryError? directory path = some error) :
    disk.createTemporary directory path = .error error := by
  rw [createTemporary, found]
  dsimp only
  rw [long]

theorem replace_eq {above : Path} (lies : path.directory? = some above)
    (found : disk.directoryAt directory above = .ok parent)
    (short : temporaryError? directory above = none) :
    disk.replace directory path content =
      ((disk.put (parent ++ [disk.freshName parent]) (.file content)).persist directory
        ⟨above, disk.freshName parent⟩ path).mapError (.write path) := by
  have inside := entryAt_eq_directory_iff.mpr ⟨parent, found⟩
  rw [replace, lies]
  dsimp only
  rw [inside, createTemporary_eq found short]
  dsimp only [bind, Except.bind]
  rw [(exists_spare found).fill_put]

theorem replace_eq_error {above : Path} {error : IoError} (lies : path.directory? = some above)
    (found : disk.directoryAt directory above = .ok parent)
    (long : temporaryError? directory above = some error) :
    disk.replace directory path content = .error (.write path error) := by
  have inside := entryAt_eq_directory_iff.mpr ⟨parent, found⟩
  rw [replace, lies]
  dsimp only
  rw [inside, createTemporary_eq_error found long]
  rfl

/-- An atomic write that succeeds has the effect of a plain one. -/
theorem replace_eq_ok_iff :
    disk.replace directory path content = .ok changed ↔
      ∃ parent name, disk.Replaceable directory path parent name ∧
        changed = disk.put (parent ++ [name]) (.file content) := by
  constructor
  · intro replaced
    cases lies : path.directory? with
    | none => simp [replace, lies] at replaced
    | some above =>
        rw [replace, lies] at replaced
        dsimp only at replaced
        split at replaced
        · rename_i inside
          obtain ⟨room, found⟩ := entryAt_eq_directory_iff.mp inside
          cases short : temporaryError? directory above with
          | some error =>
              have created := mapError_eq_ok_iff.mp replaced
              simp [createTemporary, found, short, bind, Except.bind] at created
          | none =>
              have persisted := mapError_eq_ok_iff.mp replaced
              simp only [createTemporary_eq found short, bind, Except.bind,
                (exists_spare found).fill_put] at persisted
              obtain ⟨parent, name, writable, moved⟩ :=
                (exists_spare found).persist_put.mp persisted
              exact ⟨parent, name, ⟨writable, above, room, lies, found, short⟩, moved⟩
        · contradiction
  · rintro ⟨parent, name, replaceable, rfl⟩
    obtain ⟨above, room, lies, found, short⟩ := replaceable.beside
    rw [replace_eq lies found short, mapError_eq_ok_iff, (exists_spare found).persist_put]
    exact ⟨parent, name, replaceable.toWritable, rfl⟩

end Disk

namespace Session

theorem outcome_isDirectory (session : Session) (path : Path) :
    session.outcome (Host.isDirectory path) =
      (.ok (decide ((session.disk.entryAt session.directory path).toOption = some .directory)),
        session) := by
  have kind : session.outcome (Host.kind? path) =
      (.ok ((session.disk.entryAt session.directory path).toOption.map Entry.kind), session) := rfl
  rw [Host.isDirectory, outcome_bind_ok kind, outcome_pure]
  rcases session.disk.entryAt session.directory path with error | (- | content) <;>
    simp [Except.toOption, Entry.kind]

def onDisk (session : Session) (disk : Disk) : Session :=
  { session with disk }

@[simp] theorem onDisk_disk (session : Session) (disk : Disk) :
    (session.onDisk disk).disk = disk :=
  rfl

@[simp] theorem onDisk_directory (session : Session) (disk : Disk) :
    (session.onDisk disk).directory = session.directory :=
  rfl

@[simp] theorem onDisk_onDisk (session : Session) (first second : Disk) :
    (session.onDisk first).onDisk second = session.onDisk second :=
  rfl

@[simp] theorem onDisk_self (session : Session) : session.onDisk session.disk = session :=
  rfl

theorem outcome_createTemporary (session : Session) (directory : Path) :
    session.outcome (Host.createTemporary directory) =
      match session.disk.createTemporary session.directory directory with
      | .ok (file, disk) => (.ok (.ok file), session.onDisk disk)
      | .error error => (.ok (.error error), session) := by
  change (Except.ok (session.createTemporary directory).1,
    (session.createTemporary directory).2) = _
  rw [createTemporary]
  cases session.disk.createTemporary session.directory directory <;> rfl

theorem outcome_fill {session : Session} {file : TemporaryFile} {content : ByteArray} {disk : Disk}
    (filled : session.disk.fill session.directory file content = .ok disk) :
    session.outcome (Host.fill file content) = (.ok (.ok ()), session.onDisk disk) := by
  change (Except.ok (session.changeDisk fun disk => disk.fill session.directory file content).1,
    (session.changeDisk fun disk => disk.fill session.directory file content).2) = _
  rw [changeDisk, filled]
  rfl

theorem outcome_persist (session : Session) (file : TemporaryFile) (destination : Path) :
    session.outcome (Host.persist file destination) =
      match session.disk.persist session.directory file destination with
      | .ok disk => (.ok (.ok ()), session.onDisk disk)
      | .error error => (.ok (.error error), session) := by
  change (Except.ok (session.changeDisk fun disk =>
      disk.persist session.directory file destination).1,
    (session.changeDisk fun disk => disk.persist session.directory file destination).2) = _
  rw [changeDisk]
  cases session.disk.persist session.directory file destination <;> rfl

theorem outcome_orWriteFailure_ok {α : Type} (session : Session) (path : Path)
    (temporary : Option TemporaryFile) (value : α) :
    session.outcome (orWriteFailure path temporary (.ok value)) = (.ok value, session) :=
  rfl

theorem outcome_orWriteFailure_error {α : Type} (session : Session) (path : Path)
    (file : TemporaryFile) (error : IoError) :
    session.outcome (orWriteFailure (α := α) path (some file) (.error error)) =
      (.error (.write path error),
        session.onDisk (session.disk.discard session.directory file)) :=
  rfl

theorem outcome_fill_spare {session : Session} {file : TemporaryFile} {place : Place}
    (spare : session.disk.Spare session.directory file place) (content : ByteArray) :
    (session.onDisk (session.disk.put place (.file ByteArray.empty))).outcome
        (Host.fill file content) =
      (.ok (.ok ()), session.onDisk (session.disk.put place (.file content))) :=
  outcome_fill (by rw [onDisk_disk, onDisk_directory, spare.fill_put])

/-- With its temporary file in place, an atomic write persists it or takes it away again. -/
theorem outcome_persisted {session : Session} {file : TemporaryFile} {place : Place}
    (spare : session.disk.Spare session.directory file place) (path : Path)
    (content : ByteArray) :
    (session.onDisk (session.disk.put place (.file ByteArray.empty))).outcome
        (do
          orWriteFailure path (some file) (← Host.fill file content)
          orWriteFailure path (some file) (← Host.persist file path)
          return content.size) =
      match (session.disk.put place (.file content)).persist session.directory file path with
      | .ok disk => (.ok content.size, session.onDisk disk)
      | .error error => (.error (.write path error), session) := by
  have filled := outcome_fill_spare spare content
  have moved := outcome_persist
    (session.onDisk (session.disk.put place (.file content))) file path
  rw [outcome_bind_ok filled,
    outcome_bind_ok (outcome_orWriteFailure_ok _ path (some file) ())]
  rw [onDisk_disk, onDisk_directory] at moved
  cases persisted : (session.disk.put place (.file content)).persist session.directory
      file path with
  | ok disk =>
      rw [persisted] at moved
      exact outcome_bind_ok moved _
  | error error =>
      rw [persisted] at moved
      have discarded := outcome_orWriteFailure_error (α := Unit)
        (session.onDisk (session.disk.put place (.file content))) path file error
      rw [onDisk_disk, onDisk_directory, spare.discard_put, onDisk_onDisk, onDisk_self]
        at discarded
      rw [outcome_bind_ok moved]
      exact outcome_bind_error discarded _

theorem outcome_writeAtomically (session : Session) (path : Path) (content : ByteArray) :
    session.outcome (writeAtomically path content) =
      match session.disk.replace session.directory path content with
      | .ok disk => (.ok content.size, session.onDisk disk)
      | .error failure => (.error failure, session) := by
  unfold writeAtomically Disk.replace
  cases path.directory? with
  | none => rfl
  | some above =>
      dsimp only
      rw [outcome_bind_ok (outcome_isDirectory session above)]
      cases inside : session.disk.entryAt session.directory above with
      | error error => rfl
      | ok entry =>
          cases entry with
          | file held => rfl
          | directory =>
              obtain ⟨parent, found⟩ := Disk.entryAt_eq_directory_iff.mp inside
              have created := outcome_createTemporary session above
              dsimp only
              cases short : Disk.temporaryError? session.directory above with
              | some error =>
                  rw [Disk.createTemporary_eq_error found short] at created ⊢
                  exact outcome_bind_ok created _
              | none =>
                  have spare := Disk.exists_spare found
                  rw [Disk.createTemporary_eq found short] at created ⊢
                  have moved := outcome_persisted spare path content
                  refine (outcome_bind_ok created _).trans ?_
                  refine (outcome_bind_ok (outcome_orWriteFailure_ok _ path none _) _).trans ?_
                  apply moved.trans
                  simp only [bind, Except.bind, spare.fill_put]
                  cases (session.disk.put (parent ++ [session.disk.freshName parent])
                    (.file content)).persist session.directory
                      ⟨above, session.disk.freshName parent⟩ path <;> rfl

end Session

end SealedEnum
