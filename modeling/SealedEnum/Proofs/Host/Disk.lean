import SealedEnum.Host.Disk
import SealedEnum.Proofs.Association
import SealedEnum.Proofs.Text.Pieces

namespace SealedEnum.Disk

/-! What changes on a disk when one entry does. -/

variable {disk changed : Disk} {directory place parent : Place} {path : Path} {entry : Entry}

theorem lookup_eq_none_iff :
    disk.lookup place = none ↔ place ≠ [] ∧ ∀ old ∈ disk.entries, old.1 ≠ place := by
  unfold lookup
  split
  · simp_all
  · rename_i named
    simp only [List.lookup_eq_none_iff, bne_iff_ne, ne_eq, named, not_false_eq_true, true_and]
    exact forall₂_congr fun old _ => not_congr eq_comm

theorem put_of_free (free : disk.lookup place = none) (entry : Entry) :
    disk.put place entry = ⟨disk.entries ++ [(place, entry)]⟩ := by
  obtain ⟨_, absent⟩ := lookup_eq_none_iff.mp free
  have missing : (disk.entries.lookup place).isSome = false := by
    rw [Option.isSome_eq_false_iff, Option.isNone_iff_eq_none, List.lookup_eq_none_iff]
    exact fun old member => bne_iff_ne.mpr (Ne.symm (absent old member))
  rw [put, missing]
  rfl

theorem erase_put (free : disk.lookup place = none) (entry : Entry) :
    (disk.put place entry).erase place = disk := by
  obtain ⟨_, absent⟩ := lookup_eq_none_iff.mp free
  have kept : disk.entries.filter (fun old => old.1 ≠ place) = disk.entries :=
    List.filter_eq_self.mpr fun old member => decide_eq_true (absent old member)
  rw [put_of_free free, erase, List.filter_append, kept]
  simp

def replaced (place : Place) (entry : Entry) (old : Place × Entry) : Place × Entry :=
  if old.1 = place then (place, entry) else old

theorem entries_put (disk : Disk) (place : Place) (entry : Entry) :
    (disk.put place entry).entries = Association.update disk.entries place entry :=
  apply_ite Disk.entries _ _ _

theorem lookup_put (named : place ≠ []) (other : Place) :
    (disk.put place entry).lookup other =
      if other = place then some entry else disk.lookup other := by
  rw [lookup, lookup, entries_put, Association.lookup_update]
  by_cases root : other = []
  · have different : other ≠ place := root ▸ named.symm
    rw [if_pos root, if_neg different, if_pos root]
  · rw [if_neg root, if_neg root]

theorem put_put (free : disk.lookup place = none) (first second : Entry) :
    (disk.put place first).put place second = disk.put place second := by
  obtain ⟨named, absent⟩ := lookup_eq_none_iff.mp free
  have present : ((disk.put place first).entries.lookup place).isSome = true := by
    rw [put_of_free free, List.lookup_append, List.lookup_cons_self]
    simp
  have kept : disk.entries.map (replaced place second) = disk.entries := by
    have same : ∀ old ∈ disk.entries, replaced place second old = id old :=
      fun old member => if_neg (absent old member)
    rw [List.map_congr_left same, List.map_id]
  rw [put, if_pos present, put_of_free free, put_of_free free]
  change Disk.mk ((disk.entries ++ [(place, first)]).map (replaced place second)) = _
  rw [List.map_append, kept]
  simp [replaced]

/-! Paths lead through directories, and to the same places as long as these stay. -/

def SameDirectories (disk changed : Disk) : Prop :=
  ∀ place, changed.lookup place = some .directory ↔ disk.lookup place = some .directory

theorem sameDirectories_put {content : ByteArray} (named : place ≠ [])
    (noDirectory : disk.lookup place ≠ some .directory) :
    SameDirectories disk (disk.put place (.file content)) := by
  intro other
  rw [lookup_put named]
  split
  · rename_i same
    subst other
    simp [noDirectory]
  · rfl

theorem SameDirectories.symm (same : SameDirectories disk changed) :
    SameDirectories changed disk :=
  fun place => (same place).symm

theorem step_eq_ok_iff {segment : String} {next : Place} :
    disk.step place segment = .ok next ↔
      disk.lookup place = some .directory ∧
        (if segment = "." then .ok place
          else if segment = ".." then .ok place.dropLast
          else if longestName < segment.utf8ByteSize then .error .nameTooLong
          else .ok (place ++ [segment])) = (.ok next : Except IoError Place) := by
  unfold step
  cases disk.lookup place with
  | none => simp
  | some held => cases held <;> simp

theorem SameDirectories.step_ok (same : SameDirectories disk changed) {segment : String}
    {next : Place} (steps : disk.step place segment = .ok next) :
    changed.step place segment = .ok next := by
  obtain ⟨directory, leads⟩ := step_eq_ok_iff.mp steps
  exact step_eq_ok_iff.mpr ⟨(same place).mpr directory, leads⟩

theorem SameDirectories.walk_ok (same : SameDirectories disk changed) {segments : List String}
    {last : Place} (walks : disk.walk place segments = .ok last) :
    changed.walk place segments = .ok last := by
  induction segments generalizing place with
  | nil => exact walks
  | cons segment rest ih =>
      rw [walk] at walks
      cases steps : disk.step place segment with
      | error error => simp [steps] at walks
      | ok next =>
          rw [steps] at walks
          rw [walk, same.step_ok steps]
          exact ih walks

theorem target_eq_ok_iff {name : String} :
    disk.target directory path = .ok (parent, name) ↔
      pathError? path = none ∧
        disk.walk (start directory path) (segments path).dropLast = .ok parent ∧
          disk.lookup parent = some .directory ∧
            (segments path).getLast?.getD "." = name := by
  unfold target
  cases pathError? path with
  | some error => simp
  | none =>
      dsimp only
      cases disk.walk (start directory path) (segments path).dropLast with
      | error error => simp
      | ok place =>
          dsimp only
          cases held : disk.lookup place with
          | none =>
              simp only [reduceCtorEq, Except.ok.injEq, true_and, false_iff]
              rintro ⟨rfl, inside, _⟩
              simp [held] at inside
          | some entry =>
              cases entry with
              | directory =>
                  simp only [Except.ok.injEq, Prod.mk.injEq, true_and]
                  constructor
                  · rintro ⟨rfl, last⟩
                    exact ⟨rfl, held, last⟩
                  · rintro ⟨rfl, _, last⟩
                    exact ⟨rfl, last⟩
              | file content =>
                  simp only [reduceCtorEq, Except.ok.injEq, true_and, false_iff]
                  rintro ⟨rfl, inside, _⟩
                  simp [held] at inside

theorem SameDirectories.target_ok (same : SameDirectories disk changed) {name : String}
    (leads : disk.target directory path = .ok (parent, name)) :
    changed.target directory path = .ok (parent, name) := by
  obtain ⟨usable, walks, inside, last⟩ := target_eq_ok_iff.mp leads
  exact target_eq_ok_iff.mpr ⟨usable, same.walk_ok walks, (same parent).mpr inside, last⟩

theorem walk_append {first second : List String} {middle : Place}
    (walks : disk.walk place first = .ok middle) :
    disk.walk place (first ++ second) = disk.walk middle second := by
  induction first generalizing place with
  | nil =>
      cases walks
      rfl
  | cons segment rest ih =>
      rw [List.cons_append, walk]
      rw [walk] at walks
      cases steps : disk.step place segment with
      | error error => simp [steps] at walks
      | ok next =>
          rw [steps] at walks
          exact ih walks

end SealedEnum.Disk
