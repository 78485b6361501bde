import SealedEnum.Proofs.Host.Replacement

namespace SealedEnum.Disk

/-! What writing leaves alone: all directories, and every place but those that are written to. -/

variable {disk changed before middle after : Disk} {directory place parent : Place} {path : Path}
  {name : String} {content : ByteArray} {places others : Place → Prop}

/-- The place a path leads to, where it can be told. -/
def goal? (disk : Disk) (directory : Place) (path : Path) : Option Place :=
  match disk.target directory path with
  | .ok (parent, name) => some (parent ++ [name])
  | .error _ => none

theorem SameDirectories.goal?_eq (same : SameDirectories disk changed)
    (directory : Place) (path : Path) :
    changed.goal? directory path = disk.goal? directory path := by
  unfold goal?
  cases before : disk.target directory path with
  | ok target => rw [same.target_ok before]
  | error error =>
      cases after : changed.target directory path with
      | error other => rfl
      | ok target =>
          rw [same.symm.target_ok after] at before
          contradiction

theorem replace_effect
    (replaced : disk.replace directory path content = .ok changed) :
    SameDirectories disk changed ∧
      ∃ goal, disk.goal? directory path = some goal ∧
        ∀ place, changed.lookup place =
          if place = goal then some (.file content) else disk.lookup place := by
  obtain ⟨parent, name, replaceable, rfl⟩ := replace_eq_ok_iff.mp replaced
  refine ⟨replaceable.sameDirectories, parent ++ [name], ?_, lookup_put (by simp)⟩
  rw [goal?, replaceable.target]

/-- Files may have been made and replaced at some places, and nothing else has changed. -/
structure Frame (before after : Disk) (places : Place → Prop) : Prop where
  directories : SameDirectories before after
  files : ∀ place content, before.lookup place = some (.file content) →
    ∃ kept, after.lookup place = some (.file kept)
  elsewhere : ∀ place, ¬ places place → after.lookup place = before.lookup place

namespace Frame

theorem refl (disk : Disk) (places : Place → Prop) : disk.Frame disk places where
  directories := fun _ => Iff.rfl
  files := fun _ content held => ⟨content, held⟩
  elsewhere := fun _ _ => rfl

theorem trans (first : before.Frame middle places) (second : middle.Frame after others) :
    before.Frame after fun place => places place ∨ others place where
  directories := fun place => (second.directories place).trans (first.directories place)
  files := by
    intro place content held
    obtain ⟨kept, stays⟩ := first.files place content held
    exact second.files place kept stays
  elsewhere := by
    intro place outside
    rw [not_or] at outside
    exact (second.elsewhere place outside.2).trans (first.elsewhere place outside.1)

theorem mono (frame : before.Frame after places) (wider : ∀ place, places place → others place) :
    before.Frame after others where
  directories := frame.directories
  files := frame.files
  elsewhere := fun place outside => frame.elsewhere place fun inside => outside (wider place inside)

end Frame

theorem Writable.frame (writable : disk.Writable directory path parent name) :
    disk.Frame (disk.put (parent ++ [name]) (.file content)) (· = parent ++ [name]) where
  directories := writable.sameDirectories
  files := by
    intro place held found
    rw [lookup_put (by simp)]
    split
    · exact ⟨content, rfl⟩
    · exact ⟨held, found⟩
  elsewhere := by
    intro place outside
    rw [lookup_put (by simp), if_neg outside]

theorem Writable.goal?_eq (writable : disk.Writable directory path parent name) :
    disk.goal? directory path = some (parent ++ [name]) := by
  rw [goal?, writable.target]

/-! A path that can be written to can be read from. -/

theorem read_eq_ok_iff :
    disk.read directory path = .ok content ↔
      holdsNul path = false ∧
        ∃ place, disk.resolve directory path = .ok place ∧
          disk.lookup place = some (.file content) := by
  unfold read entryAt
  cases holdsNul path with
  | true => simp
  | false =>
      cases disk.resolve directory path with
      | error error => simp
      | ok place =>
          cases held : disk.lookup place with
          | none => simp [held]
          | some entry => cases entry <;> simp [held]

theorem Frame.read_ok (frame : disk.Frame changed places)
    (apart : ∀ place, disk.resolve directory path = .ok place → ¬ places place)
    (reads : disk.read directory path = .ok content) :
    changed.read directory path = .ok content := by
  obtain ⟨text, place, resolves, held⟩ := read_eq_ok_iff.mp reads
  rw [← frame.elsewhere place (apart place resolves)] at held
  exact read_eq_ok_iff.mpr ⟨text, place, frame.directories.resolve_ok resolves, held⟩

theorem isEmpty_of_resolve (resolves : disk.resolve directory path = .ok place) :
    path.isEmpty = false := by
  cases empty : path.isEmpty with
  | false => rfl
  | true => simp [resolve, pathError?, empty] at resolves

theorem Writable.resolve_eq (writable : disk.Writable directory path parent name) :
    disk.resolve directory path = .ok (parent ++ [name]) := by
  obtain ⟨usable, walks, inside, last⟩ := target_eq_ok_iff.mp writable.target
  obtain ⟨here, above⟩ : name ≠ "." ∧ name ≠ ".." := by
    simpa [isSpecialName] using writable.ordinary
  have ends : (segments path).getLast? = some name := by
    cases found : (segments path).getLast? with
    | none =>
        rw [found] at last
        exact absurd last.symm here
    | some segment =>
        rw [found] at last
        exact congrArg some last
  obtain ⟨front, parts⟩ := List.getLast?_eq_some_iff.mp ends
  rw [parts, List.dropLast_concat] at walks
  have enters : disk.step parent name = .ok (parent ++ [name]) := by
    rw [step_eq_ok_iff, if_neg here, if_neg above, if_neg (Nat.not_lt.mpr writable.short)]
    exact ⟨inside, rfl⟩
  rw [resolve, usable]
  simp only [writable.closed, parts, Bool.false_eq_true, if_false, List.append_nil]
  rw [walk_append walks, walk, enters]
  rfl

theorem Writable.read_eq (writable : disk.Writable directory path parent name)
    (held : disk.lookup (parent ++ [name]) = some (.file content)) :
    disk.read directory path = .ok content :=
  read_eq_ok_iff.mpr ⟨writable.text, parent ++ [name], writable.resolve_eq, held⟩

end SealedEnum.Disk
