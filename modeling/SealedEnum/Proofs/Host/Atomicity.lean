import SealedEnum.Proofs.Host.Faults
import SealedEnum.Proofs.Host.Readable

namespace SealedEnum

/-! All an atomic write can do: replace one file as a whole, or nothing. -/

namespace Disk

variable {disk changed : Disk} {directory : Place} {path : Path} {content : ByteArray}
  {failure : Failure}

/-- A path lies in a directory that is there. A bare name lies in the current one. -/
def HasParent (disk : Disk) (directory : Place) (path : Path) : Prop :=
  ∃ above, path.parent? = some above ∧
    disk.entryAt directory (if above.isEmpty then ⟨"."⟩ else above) = .ok .directory

theorem hasParent_iff :
    disk.HasParent directory path ↔
      ∃ above, path.directory? = some above ∧ disk.entryAt directory above = .ok .directory := by
  unfold HasParent Path.directory?
  cases path.parent? <;> simp

/-- How a write to a path may fail. The directory is looked for before anything is written. -/
inductive RefusesWrite (disk : Disk) (directory : Place) (path : Path) : Failure → Prop where
  | missingParent (outside : ¬ disk.HasParent directory path) :
      disk.RefusesWrite directory path (.missingParent path)
  | unwritten (inside : disk.HasParent directory path) (error : IoError) :
      disk.RefusesWrite directory path (.write path error)

theorem hasParent_of_replace (replaced : disk.replace directory path content = .ok changed) :
    disk.HasParent directory path := by
  obtain ⟨_, _, replaceable, -⟩ := replace_eq_ok_iff.mp replaced
  obtain ⟨above, room, lies, found, -⟩ := replaceable.beside
  exact hasParent_iff.mpr ⟨above, lies, entryAt_eq_directory_iff.mpr ⟨room, found⟩⟩

theorem refusesWrite_of_replace (fails : disk.replace directory path content = .error failure) :
    disk.RefusesWrite directory path failure := by
  unfold replace at fails
  cases lies : path.directory? with
  | none =>
      rw [lies] at fails
      obtain rfl := Except.error.inj fails
      exact .missingParent (by simp [hasParent_iff, lies])
  | some above =>
      rw [lies] at fails
      dsimp only at fails
      split at fails
      · rename_i inside
        obtain ⟨error, -, rfl⟩ := mapError_eq_error_iff.mp fails
        exact .unwritten (hasParent_iff.mpr ⟨above, lies, inside⟩) error
      · rename_i outside
        obtain rfl := Except.error.inj fails
        refine .missingParent fun parent => ?_
        obtain ⟨other, same, inside⟩ := hasParent_iff.mp parent
        obtain rfl := Option.some.inj (lies.symm.trans same)
        exact outside inside

theorem replace_eq_missingParent_iff :
    disk.replace directory path content = .error (.missingParent path) ↔
      ¬ disk.HasParent directory path := by
  constructor
  · intro fails
    cases refusesWrite_of_replace fails with
    | missingParent outside => exact outside
  · intro outside
    cases fails : disk.replace directory path content with
    | ok changed => exact absurd (hasParent_of_replace fails) outside
    | error failure =>
        cases refusesWrite_of_replace fails with
        | missingParent _ => rfl
        | unwritten inside _ => exact absurd inside outside

/-- What was written can be read. -/
theorem read_of_replace (replaced : disk.replace directory path content = .ok changed) :
    changed.read directory path = .ok content := by
  obtain ⟨parent, name, replaceable, rfl⟩ := replace_eq_ok_iff.mp replaced
  apply (replaceable.sameDirectories.writable replaceable.toWritable).read_eq
  rw [lookup_put (by simp), if_pos rfl]

/-- A path that leads to a directory cannot be written to. -/
theorem Writable.entryAt_ne_directory {parent : Place} {name : String}
    (writable : disk.Writable directory path parent name) :
    disk.entryAt directory path ≠ .ok .directory := by
  rw [ne_eq, entryAt_eq_directory_iff]
  rintro ⟨place, found⟩
  obtain ⟨-, resolves, held⟩ := directoryAt_eq_ok_iff.mp found
  obtain rfl := Except.ok.inj (writable.resolve_eq.symm.trans resolves)
  exact writable.noDirectory held

end Disk

namespace Session

/-- How an atomic write ends: with the whole content at its destination and nothing else changed,
or with nothing changed at all, also where a temporary file fails half-way. -/
structure WritesAtomically (session : Session) (path : Path) (content : ByteArray) : Prop where
  failed : ∀ failure after,
    session.outcome (writeAtomically path content) = (.error failure, after) →
      after = session ∧ session.disk.RefusesWrite session.directory path failure
  uninterrupted : session.outcome (Run.under (writeAtomically path content) {}) =
    session.outcome (writeAtomically path content)
  interrupted : ∀ faults ≠ {}, ∃ failure,
    session.outcome (Run.under (writeAtomically path content) faults) =
        (.error failure, session) ∧
      session.disk.RefusesWrite session.directory path failure
  written : ∀ count after,
    session.outcome (writeAtomically path content) = (.ok count, after) →
      count = content.size ∧ after = session.onDisk after.disk ∧
      ∃ place, session.disk.goal? session.directory path = some place ∧
        (∀ other, after.disk.lookup other =
          if other = place then some (.file content) else session.disk.lookup other) ∧
        after.disk.read session.directory path = .ok content
  missing_iff :
    session.outcome (writeAtomically path content) = (.error (.missingParent path), session) ↔
      ¬ session.disk.HasParent session.directory path
  succeeds_iff :
    (∃ after, session.outcome (writeAtomically path content) = (.ok content.size, after)) ↔
      ∃ parent name, session.disk.Replaceable session.directory path parent name
  file_replaced : ∀ old, session.disk.read session.directory path = .ok old →
    session.disk.IsTree → session.disk.TakesTemporary session.directory path →
      ∃ after, session.outcome (writeAtomically path content) = (.ok content.size, after)
  directory_kept : session.disk.entryAt session.directory path = .ok .directory →
    ∃ failure, session.outcome (writeAtomically path content) = (.error failure, session)

variable {session after : Session} {path : Path} {content : ByteArray} {count : Nat}
  {failure : Failure}

theorem writeAtomically_eq_ok_iff :
    session.outcome (writeAtomically path content) = (.ok count, after) ↔
      ∃ disk, session.disk.replace session.directory path content = .ok disk ∧
        content.size = count ∧ session.onDisk disk = after := by
  rw [outcome_writeAtomically]
  cases session.disk.replace session.directory path content <;> simp

theorem writeAtomically_eq_error_iff :
    session.outcome (writeAtomically path content) = (.error failure, after) ↔
      session.disk.replace session.directory path content = .error failure ∧ session = after := by
  rw [outcome_writeAtomically]
  cases session.disk.replace session.directory path content <;> simp

theorem exists_writeAtomically_eq_ok_iff :
    (∃ after, session.outcome (writeAtomically path content) = (.ok content.size, after)) ↔
      ∃ parent name, session.disk.Replaceable session.directory path parent name := by
  constructor
  · rintro ⟨_, ends⟩
    obtain ⟨_, replaced, -⟩ := writeAtomically_eq_ok_iff.mp ends
    obtain ⟨parent, name, replaceable, -⟩ := Disk.replace_eq_ok_iff.mp replaced
    exact ⟨parent, name, replaceable⟩
  · rintro ⟨parent, name, replaceable⟩
    have replaced : session.disk.replace session.directory path content = .ok _ :=
      Disk.replace_eq_ok_iff.mpr ⟨parent, name, replaceable, rfl⟩
    exact ⟨_, writeAtomically_eq_ok_iff.mpr ⟨_, replaced, rfl, rfl⟩⟩

theorem refusesWrite_of_faulty {faults : Faults} (faulty : faults ≠ {}) (path : Path)
    (content : ByteArray) :
    ∃ failure, session.outcome (Run.under (writeAtomically path content) faults) =
        (.error failure, session) ∧
      session.disk.RefusesWrite session.directory path failure := by
  by_cases parent : session.disk.HasParent session.directory path
  · obtain ⟨above, lies, inside⟩ := Disk.hasParent_iff.mp parent
    obtain ⟨error, fails⟩ := outcome_of_fault lies inside faulty content
    exact ⟨_, fails, .unwritten parent error⟩
  · refine ⟨_, outcome_without_directory ?_ content faults, .missingParent parent⟩
    intro above lies inside
    exact parent (Disk.hasParent_iff.mpr ⟨above, lies, inside⟩)

theorem writesAtomically (session : Session) (path : Path) (content : ByteArray) :
    session.WritesAtomically path content where
  failed := by
    intro failure after ends
    obtain ⟨fails, rfl⟩ := writeAtomically_eq_error_iff.mp ends
    exact ⟨rfl, Disk.refusesWrite_of_replace fails⟩
  uninterrupted := by rw [Run.under_none]
  interrupted := fun _ faulty => refusesWrite_of_faulty faulty path content
  written := by
    intro count after ends
    obtain ⟨disk, replaced, rfl, rfl⟩ := writeAtomically_eq_ok_iff.mp ends
    obtain ⟨-, place, leads, effect⟩ := Disk.replace_effect replaced
    exact ⟨rfl, rfl, place, leads, effect, Disk.read_of_replace replaced⟩
  missing_iff := by
    rw [writeAtomically_eq_error_iff, and_iff_left rfl, Disk.replace_eq_missingParent_iff]
  succeeds_iff := exists_writeAtomically_eq_ok_iff
  file_replaced := by
    intro old reads tree room
    exact exists_writeAtomically_eq_ok_iff.mpr (Disk.replaceable_of_read tree room reads)
  directory_kept := by
    intro directory
    cases fails : session.disk.replace session.directory path content with
    | error failure => exact ⟨failure, writeAtomically_eq_error_iff.mpr ⟨fails, rfl⟩⟩
    | ok disk =>
        obtain ⟨parent, name, replaceable, -⟩ := Disk.replace_eq_ok_iff.mp fails
        exact absurd directory replaceable.toWritable.entryAt_ne_directory

end Session

end SealedEnum
