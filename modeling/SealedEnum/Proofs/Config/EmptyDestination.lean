import SealedEnum.Proofs.Config.Destinations
import SealedEnum.Proofs.Generation.Precedence
import SealedEnum.Proofs.Spec.FirstViolation

namespace SealedEnum

/-! Where an empty destination goes that comes from a configuration: it is joined to the base
directory before anything looks at it, and is not empty any more. -/

namespace Path

variable {directory path : Path} {before : List Char}

theorem Continues.isEmpty_eq (continues : path.Continues before) : path.isEmpty = false := by
  cases empty : path.isEmpty with
  | false => rfl
  | true =>
      have none : path.text.toList = [] := by simpa [isEmpty] using empty
      rcases continues with absolute | ⟨rest, spelled⟩
      · simp [isAbsolute, none, startsAtRoot] at absolute
      · simp [none] at spelled

theorem isEmpty_join (nonempty : directory.isEmpty = false) (path : Path) :
    (directory.join path).isEmpty = false := by
  obtain ⟨before, continues⟩ := exists_continues_join nonempty
  exact (continues path).isEmpty_eq

theorem endsInSlash_join_empty (nonempty : directory.isEmpty = false) :
    Disk.endsInSlash (directory.join ⟨""⟩) = true := by
  obtain ⟨before, -, joined⟩ := exists_toList_join nonempty
  simp [Disk.endsInSlash, joined ⟨""⟩ rfl]

end Path

theorem Disk.replace_ne_ok_of_endsInSlash {disk changed : Disk} {directory : Place} {path : Path}
    {content : ByteArray} (slash : endsInSlash path = true) :
    disk.replace directory path content ≠ .ok changed := by
  intro replaced
  obtain ⟨parent, name, replaceable, -⟩ := replace_eq_ok_iff.mp replaced
  simp [replaceable.closed] at slash

namespace Spec

variable {spec : Spec}

theorem validate_eq_emptyDestination_iff :
    spec.validate = .error .emptyDestination ↔ spec.destination.isEmpty = true := by
  constructor
  · intro rejected
    have first := (spec.finds_faults _).mp (validate_eq_error_iff.mp rejected)
    obtain ⟨fault, member, occurs, named⟩ := first.occurs
    -- No other field has this fault.
    have own : fault ∈ destinationFaults spec.destination := by
      simp only [faults, packageFaults, typeNameFaults, valuesFaults, valueFaults,
        undefinedFaults, jsonFaults, List.mem_append, List.mem_cons, List.mem_map,
        List.mem_flatMap, List.not_mem_nil, or_false] at member
      grind
    obtain rfl := List.mem_singleton.mp own
    simpa [Path.isEmpty] using occurs
  · intro empty
    simp [validate, violation?, destinationViolation?, empty]

/-- One destination is as good as another, if it is there. -/
theorem validate_redirect (named : spec.destination.isEmpty = false) {other : Path}
    (nonempty : other.isEmpty = false) :
    Spec.validate { spec with destination := other } = spec.validate := by
  simp only [validate, violation?, destinationViolation?, named, nonempty]
  rfl

/-- A specification for no file. Only what it is joined to keeps it from being rejected. -/
structure Aimless (base : Path) (spec : Spec) : Prop where
  joined : spec.destination = base.join ⟨""⟩
  verdict : ∀ other : Path, other.isEmpty = false →
    Spec.validate { spec with destination := other } = spec.validate
  rejected_alone : Spec.validate { spec with destination := ⟨""⟩ } = .error .emptyDestination
  never_generated : ∀ session : Session, ∃ failure,
    session.outcome (generate spec) = (.error failure, session)

theorem exists_generate_eq_error (slash : Disk.endsInSlash spec.destination = true)
    (session : Session) :
    ∃ failure, session.outcome (generate spec) = (.error failure, session) := by
  cases rendered : session.rendering spec with
  | error failure => exact ⟨failure, Session.generate_eq_error_iff.mpr ⟨.inl rendered, rfl⟩⟩
  | ok file =>
      cases replaced : session.disk.replace session.directory file.path file.bytes with
      | error failure =>
          exact ⟨failure, Session.generate_eq_error_iff.mpr
            ⟨.inr ⟨file, rendered, replaced⟩, rfl⟩⟩
      | ok disk =>
          rw [← Session.path_of_rendering rendered] at slash
          exact absurd replaced (Disk.replace_ne_ok_of_endsInSlash slash)

end Spec

namespace LoadedConfig

variable {loaded : LoadedConfig} {entry : EnumSettings}

theorem isEmpty_destinationOf (loaded : LoadedConfig) (entry : EnumSettings) :
    (loaded.destinationOf entry).isEmpty = false := by
  obtain ⟨before, continues⟩ := loaded.exists_continues_destinationOf
  exact (continues entry).isEmpty_eq

theorem aimless_specOf (empty : entry.destination = some "") :
    (loaded.specOf entry).Aimless loaded.baseDirectory := by
  have joined : (loaded.specOf entry).destination = loaded.baseDirectory.join ⟨""⟩ := by
    rw [specOf, destinationOf, empty]
  refine ⟨joined, fun other nonempty => ?_, ?_, ?_⟩
  · exact Spec.validate_redirect (loaded.isEmpty_destinationOf entry) nonempty
  · exact Spec.validate_eq_emptyDestination_iff.mpr rfl
  · apply Spec.exists_generate_eq_error
    rw [joined]
    exact Path.endsInSlash_join_empty loaded.isEmpty_baseDirectory

/-- No destination of a configuration is found to be empty, and one that is comes to light only
when its file is to be written. -/
theorem specs_emptyDestination (loaded : LoadedConfig) {specs : List Spec}
    (accepted : loaded.specs = .ok specs) :
    (∀ spec ∈ specs, spec.validate ≠ .error .emptyDestination) ∧
      List.Forall₂ (fun entry spec => entry.destination = some "" →
        spec.Aimless loaded.baseDirectory) loaded.config.enums specs := by
  obtain ⟨-, rfl⟩ := specs_eq_ok_iff.mp accepted
  constructor
  · intro spec member
    obtain ⟨entry, -, rfl⟩ := List.mem_map.mp member
    have named := loaded.isEmpty_destinationOf entry
    rw [ne_eq, Spec.validate_eq_emptyDestination_iff]
    simpa [specOf] using named
  · rw [List.forall₂_map_right_iff, List.forall₂_same]
    exact fun entry _ empty => aimless_specOf empty

end LoadedConfig

def aimlessConfig : LoadedConfig where
  path := ⟨"enumerator.toml"⟩
  config := {
    enums := [
      { typeName := "Color", package := "colors", values := ["Red"], destination := some "" }] }

theorem specs_aimlessConfig :
    ∃ spec, aimlessConfig.specs = .ok [spec] ∧ spec.validate ≠ .error .emptyDestination ∧
      spec.Aimless ⟨"."⟩ := by
  have accepted : aimlessConfig.specs = .ok (aimlessConfig.config.enums.map aimlessConfig.specOf) :=
    rfl
  obtain ⟨hidden, each⟩ := LoadedConfig.specs_emptyDestination aimlessConfig accepted
  obtain ⟨aimless, -⟩ := List.forall₂_cons.mp each
  exact ⟨_, accepted, hidden _ List.mem_cons_self, aimless rfl⟩

/-- An empty destination is accepted. -/
theorem validate_aimlessConfig :
    ∃ entry spec, aimlessConfig.config.enums = [entry] ∧ entry.destination = some "" ∧
      aimlessConfig.specs = .ok [spec] ∧ spec.destination = ⟨"./"⟩ ∧ spec.validate = .ok () :=
  ⟨_, _, rfl, rfl, rfl, rfl, rfl⟩

end SealedEnum
