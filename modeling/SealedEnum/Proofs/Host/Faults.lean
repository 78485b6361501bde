import SealedEnum.Proofs.Host.Replacement

namespace SealedEnum

/-! A machine whose temporary files fail for reasons that its disk does not show. -/

/-- What fails. A temporary file that cannot be filled is left with some other content. -/
structure Faults where
  create : Option IoError := none
  fill : Option (IoError × ByteArray) := none
  persist : Option IoError := none

/-- Asks for an operation, unless it is to fail. -/
def orFault {m : Type → Type} [Monad m] {α : Type} (fault : Option IoError)
    (operation : m (Except IoError α)) : m (Except IoError α) :=
  match fault with
  | none => operation
  | some error => pure (.error error)

abbrev FaultyMachine := ReaderT Faults (StateM Session)

instance : Host FaultyMachine where
  workingDirectory := fun _ => Host.workingDirectory
  lookupFor names := fun _ => Host.lookupFor names
  lookupPath name := fun _ => Host.lookupPath name
  isText path := fun _ => Host.isText path
  setVariable name value := fun _ => Host.setVariable name value
  kind? path := fun _ => Host.kind? path
  read path := fun _ => Host.read path
  write path content := fun _ => Host.write path content
  createTemporary directory := fun faults =>
    orFault faults.create (Host.createTemporary directory)
  fill file content := fun faults =>
    match faults.fill with
    | none => Host.fill file content
    | some (error, left) => do
        let _ ← Host.fill file left
        return .error error
  persist file destination := fun faults =>
    orFault faults.persist (Host.persist file destination)
  discard file := fun _ => Host.discard file
  log event := fun _ => Host.log event
  print text := fun _ => Host.print text

namespace Run

variable {α β : Type}

/-- The run, with these faults. -/
def under (run : Run FaultyMachine α) (faults : Faults) : Run (StateM Session) α :=
  ExceptT.mk ((ExceptT.run run).run faults)

theorem under_bind (first : Run FaultyMachine α) (next : α → Run FaultyMachine β)
    (faults : Faults) :
    (first >>= next).under faults =
      first.under faults >>= fun value => (next value).under faults := by
  apply ExceptT.ext
  rw [under, ExceptT.run_bind, ReaderT.run_bind, ExceptT.run_bind]
  refine bind_congr fun result => ?_
  cases result <;> rfl

theorem under_bind_congr {first : Run FaultyMachine α} {plain : Run (StateM Session) α}
    {next : α → Run FaultyMachine β} {plainNext : α → Run (StateM Session) β} {faults : Faults}
    (here : first.under faults = plain)
    (onward : ∀ value, (next value).under faults = plainNext value) :
    (first >>= next).under faults = plain >>= plainNext := by
  rw [under_bind, here]
  exact bind_congr onward

theorem under_orWriteFailure (path : Path) (file : Option TemporaryFile)
    (result : Except IoError α) (faults : Faults) :
    (orWriteFailure path file result).under faults = orWriteFailure path file result := by
  cases result with
  | ok value => rfl
  | error error => cases file <;> rfl

/-- Without faults, an atomic write is what it is on a machine that has none. -/
theorem under_none (path : Path) (content : ByteArray) :
    under (writeAtomically path content) {} = writeAtomically path content := by
  unfold writeAtomically
  cases path.directory? with
  | none => rfl
  | some above =>
      refine under_bind_congr rfl fun inside => ?_
      cases inside with
      | false => rfl
      | true =>
          refine under_bind_congr rfl fun created => ?_
          refine under_bind_congr (under_orWriteFailure ..) fun file => ?_
          refine under_bind_congr rfl fun filled => ?_
          refine under_bind_congr (under_orWriteFailure ..) fun _ => ?_
          refine under_bind_congr rfl fun moved => ?_
          exact under_bind_congr (under_orWriteFailure ..) fun _ => rfl

end Run

namespace Session

theorem outcome_under_bind_ok {α β : Type} {session after : Session} {faults : Faults}
    {first : Run FaultyMachine α} {value : α}
    (succeeds : session.outcome (first.under faults) = (.ok value, after))
    (next : α → Run FaultyMachine β) :
    session.outcome ((first >>= next).under faults) =
      after.outcome ((next value).under faults) := by
  rw [Run.under_bind, outcome_bind_ok succeeds]

theorem outcome_under_bind_error {α β : Type} {session after : Session} {faults : Faults}
    {first : Run FaultyMachine α} {failure : Failure}
    (fails : session.outcome (first.under faults) = (.error failure, after))
    (next : α → Run FaultyMachine β) :
    session.outcome ((first >>= next).under faults) = (.error failure, after) := by
  rw [Run.under_bind, outcome_bind_error fails]

theorem outcome_under_orWriteFailure_ok {α : Type} (session : Session) (path : Path)
    (file : Option TemporaryFile) (value : α) (faults : Faults) :
    session.outcome ((orWriteFailure path file (.ok value)).under faults) = (.ok value, session) :=
  rfl

variable {session : Session} {file : TemporaryFile} {place : Place} {path : Path}
  {content : ByteArray} {faults : Faults}

/-- A temporary file is taken away again, whatever it holds. -/
theorem outcome_discarded (spare : session.disk.Spare session.directory file place)
    (path : Path) (content : ByteArray) (error : IoError) (faults : Faults) :
    (session.onDisk (session.disk.put place (.file content))).outcome
        ((orWriteFailure (α := Unit) path (some file) (.error error)).under faults) =
      (.error (.write path error), session) := by
  have discarded := outcome_orWriteFailure_error (α := Unit)
    (session.onDisk (session.disk.put place (.file content))) path file error
  rwa [onDisk_disk, onDisk_directory, spare.discard_put, onDisk_onDisk, onDisk_self] at discarded

/-- With its temporary file in place, an atomic write that meets a fault takes it away again. -/
theorem outcome_of_late_fault (faults : Faults)
    (spare : session.disk.Spare session.directory file place)
    (faulty : faults.fill ≠ none ∨ faults.persist ≠ none) (path : Path) (content : ByteArray) :
    ∃ error, (session.onDisk (session.disk.put place (.file ByteArray.empty))).outcome
        (Run.under
          (do
            orWriteFailure path (some file) (← Host.fill file content)
            orWriteFailure path (some file) (← Host.persist file path)
            return content.size)
          faults) =
      (.error (.write path error), session) := by
  obtain ⟨create, fill, persist⟩ := faults
  cases fill with
  | some fault =>
      -- Whatever the fault has left in the file goes away with it.
      obtain ⟨error, left⟩ := fault
      have stops : (session.onDisk (session.disk.put place (.file ByteArray.empty))).outcome
          (Run.under (Host.fill file content) ⟨create, some (error, left), persist⟩) =
          (.ok (.error error), session.onDisk (session.disk.put place (.file left))) := by
        change (Except.ok (Except.error error), (Session.outcome _ (Host.fill file left)).2) = _
        rw [outcome_fill_spare spare left]
      refine ⟨error, ?_⟩
      rw [outcome_under_bind_ok stops]
      exact outcome_under_bind_error (outcome_discarded spare path left error _) _
  | none =>
      cases persist with
      | none => simp at faulty
      | some error =>
          refine ⟨error, ?_⟩
          rw [outcome_under_bind_ok (outcome_fill_spare spare content)]
          have stops : (session.onDisk (session.disk.put place (.file content))).outcome
              (Run.under (Host.persist file path) ⟨create, none, some error⟩) =
              (.ok (.error error), session.onDisk (session.disk.put place (.file content))) := rfl
          rw [outcome_under_bind_ok (outcome_under_orWriteFailure_ok ..),
            outcome_under_bind_ok stops]
          exact outcome_under_bind_error (outcome_discarded spare path content error _) _

theorem outcome_under_isDirectory (session : Session) (above : Path) (faults : Faults) :
    session.outcome (Run.under (Host.isDirectory above) faults) =
      (.ok (decide ((session.disk.entryAt session.directory above).toOption = some .directory)),
        session) :=
  outcome_isDirectory session above

/-- Where there is no directory to write in, nothing is left that could fail. -/
theorem outcome_without_directory
    (outside : ∀ above, path.directory? = some above →
      session.disk.entryAt session.directory above ≠ .ok .directory)
    (content : ByteArray) (faults : Faults) :
    session.outcome (Run.under (writeAtomically path content) faults) =
      (.error (.missingParent path), session) := by
  unfold writeAtomically
  cases lies : path.directory? with
  | none => rfl
  | some above =>
      dsimp only
      rw [outcome_under_bind_ok (outcome_under_isDirectory session above faults)]
      cases inside : session.disk.entryAt session.directory above with
      | error error => rfl
      | ok entry =>
          cases entry with
          | file held => rfl
          | directory => exact absurd inside (outside above lies)

/-- An atomic write that meets a fault fails, with nothing changed. -/
theorem outcome_of_fault {above : Path} (lies : path.directory? = some above)
    (inside : session.disk.entryAt session.directory above = .ok .directory)
    (faulty : faults ≠ {}) (content : ByteArray) :
    ∃ error, session.outcome (Run.under (writeAtomically path content) faults) =
      (.error (.write path error), session) := by
  obtain ⟨parent, found⟩ := Disk.entryAt_eq_directory_iff.mp inside
  have there := outcome_under_isDirectory session above faults
  rw [inside] at there
  have created := outcome_createTemporary session above
  unfold writeAtomically
  rw [lies]
  dsimp only
  rw [outcome_under_bind_ok there, if_neg (by simp [Except.toOption])]
  obtain ⟨create, fill, persist⟩ := faults
  cases create with
  | some error => exact ⟨error, rfl⟩
  | none =>
      cases short : Disk.temporaryError? session.directory above with
      | some error =>
          rw [Disk.createTemporary_eq_error found short] at created
          exact ⟨error, (outcome_under_bind_ok created _).trans (outcome_under_bind_error rfl _)⟩
      | none =>
          have spare := Disk.exists_spare found
          rw [Disk.createTemporary_eq found short] at created
          have late : fill ≠ none ∨ persist ≠ none := by
            cases fill <;> simp_all
          obtain ⟨error, fails⟩ :=
            outcome_of_late_fault ⟨none, fill, persist⟩ spare late path content
          refine ⟨error, (outcome_under_bind_ok created _).trans ?_⟩
          exact (outcome_under_bind_ok (outcome_under_orWriteFailure_ok ..) _).trans fails

end Session

end SealedEnum
