import Mathlib.Data.List.Nodup
import SealedEnum.Config.Resolution
import SealedEnum.Proofs.Path.Spelling

namespace SealedEnum

open SealedEnum.Text

namespace LoadedConfig

/-! Entries resolve one by one, to the directory of the configuration file. -/

/-- A directory that relative settings are resolved against. -/
inductive Based (loaded : LoadedConfig) : Path → Prop where
  | above {directory : Path} (parent : loaded.path.parent? = some directory)
      (nonempty : directory.isEmpty = false) : Based loaded directory
  | here (missing : ∀ directory, loaded.path.parent? = some directory → directory.isEmpty = true) :
      Based loaded ⟨"."⟩

/-- A file that an entry asks for, itself or by its package and type. -/
inductive Placed (loaded : LoadedConfig) (entry : EnumSettings) : Path → Prop where
  | own {file : String} (given : entry.destination = some file) :
      Placed loaded entry (loaded.baseDirectory.join ⟨file⟩)
  | derived (missing : entry.destination = none) :
      Placed loaded entry
        (((loaded.baseDirectory.join ⟨loaded.config.general.outputDirectory⟩).join
          ⟨entry.package⟩).join ⟨snakeCase entry.typeName ++ ".go"⟩)

/-- A license an entry asks for. An empty one of its own hides the general one. -/
inductive Licensed (loaded : LoadedConfig) (entry : EnumSettings) : Option Path → Prop where
  | none (given : entry.licenseFile = some "") : Licensed loaded entry .none
  | own {file : String} (given : entry.licenseFile = some file) (nonempty : file ≠ "") :
      Licensed loaded entry (some (loaded.baseDirectory.join ⟨file⟩))
  | missing (missing : entry.licenseFile = .none)
      (general : loaded.config.general.licenseFile.getD "" = "") : Licensed loaded entry .none
  | inherited {file : String} (missing : entry.licenseFile = .none)
      (general : loaded.config.general.licenseFile = some file) (nonempty : file ≠ "") :
      Licensed loaded entry (some (loaded.baseDirectory.join ⟨file⟩))

/-- A specification that says what an entry says. -/
structure Resolves (loaded : LoadedConfig) (entry : EnumSettings) (spec : Spec) : Prop where
  package : spec.package = entry.package
  typeName : spec.typeName = entry.typeName
  values : spec.values = entry.values
  undefinedValue : spec.undefinedValue = entry.undefinedValue
  json : spec.json = entry.json
  destination : loaded.Placed entry spec.destination
  license : loaded.Licensed entry spec.licenseFile

variable {loaded : LoadedConfig} {entry : EnumSettings}

theorem based_baseDirectory (loaded : LoadedConfig) : loaded.Based loaded.baseDirectory := by
  unfold baseDirectory Path.directory?
  cases parent : loaded.path.parent? with
  | none => exact .here (by simp [parent])
  | some directory =>
      cases empty : directory.isEmpty with
      | true => simpa [empty] using Based.here (by simp [parent, empty])
      | false => simpa [empty] using Based.above parent empty

theorem placed_destinationOf (loaded : LoadedConfig) (entry : EnumSettings) :
    loaded.Placed entry (loaded.destinationOf entry) := by
  unfold destinationOf
  cases given : entry.destination with
  | none => exact .derived given
  | some file => exact .own given

theorem licensed_licenseFileOf (loaded : LoadedConfig) (entry : EnumSettings) :
    loaded.Licensed entry (loaded.licenseFileOf entry) := by
  unfold licenseFileOf
  cases given : entry.licenseFile with
  | some file =>
      by_cases empty : file = ""
      · subst empty
        exact .none given
      · simpa [Option.filter, empty] using Licensed.own given empty
  | none =>
      cases general : loaded.config.general.licenseFile with
      | none => exact .missing given (by simp [general])
      | some file =>
          by_cases empty : file = ""
          · subst empty
            exact .missing given (by simp [general])
          · simpa [Option.filter, empty] using Licensed.inherited given general empty

theorem resolves_specOf (loaded : LoadedConfig) (entry : EnumSettings) :
    loaded.Resolves entry (loaded.specOf entry) where
  package := rfl
  typeName := rfl
  values := rfl
  undefinedValue := rfl
  json := rfl
  destination := loaded.placed_destinationOf entry
  license := loaded.licensed_licenseFileOf entry

/-! Destinations are kept apart by their components. -/

/-- The files some specifications go to. -/
def places (specs : List Spec) : List (List Path.Component) :=
  specs.map fun spec => spec.destination.components

theorem nodup_places_concat_iff {earlier : List Spec} {spec : Spec} :
    (places (earlier ++ [spec])).Nodup ↔
      (places earlier).Nodup ∧ spec.destination.components ∉ places earlier := by
  rw [places, List.map_append, List.map_singleton, ← List.concat_eq_append, List.nodup_concat]
  exact and_comm

/-- The earlier specifications, being apart, have no more than one owner for a file. -/
theorem find?_agrees_eq_some_iff {earlier : List Spec} {owner spec : Spec}
    (apart : (places earlier).Nodup) :
    (earlier.find? fun other => other.destination.agrees spec.destination) = some owner ↔
      owner ∈ earlier ∧ owner.destination.components = spec.destination.components := by
  constructor
  · intro found
    exact ⟨List.mem_of_find?_eq_some found, by simpa [Path.agrees] using List.find?_some found⟩
  · rintro ⟨member, same⟩
    cases found : earlier.find? fun other => other.destination.agrees spec.destination with
    | none =>
        have differs := List.find?_eq_none.mp found owner member
        exact absurd same (by simpa [Path.agrees] using differs)
    | some other =>
        have otherMember := List.mem_of_find?_eq_some found
        have otherSame : other.destination.components = spec.destination.components := by
          simpa [Path.agrees] using List.find?_some found
        rw [List.inj_on_of_nodup_map apart otherMember member (otherSame.trans same.symm)]

theorem find?_agrees_eq_none_iff {earlier : List Spec} {spec : Spec} :
    (earlier.find? fun owner => owner.destination.agrees spec.destination) = none ↔
      spec.destination.components ∉ places earlier := by
  simp [places, Path.agrees, List.find?_eq_none]

def collision (owner spec : Spec) : SharedDestination :=
  ⟨spec.destination, owner.typeName, spec.typeName⟩

theorem mem_places_of_find? {earlier : List Spec} {owner spec : Spec}
    (found : (earlier.find? fun other => other.destination.agrees spec.destination) = some owner) :
    spec.destination.components ∈ places earlier := by
  by_contra free
  rw [find?_agrees_eq_none_iff.mpr free] at found
  contradiction

theorem not_mem_places_of_nodup {earlier before : List Spec} {spec : Spec}
    (apart : (places (earlier ++ spec :: before)).Nodup) :
    spec.destination.components ∉ places earlier := by
  rw [List.append_cons, places, List.map_append] at apart
  exact (nodup_places_concat_iff.mp apart.of_append_left).2

theorem sharedDestination?_eq_none_iff {earlier specs : List Spec}
    (apart : (places earlier).Nodup) :
    sharedDestination? earlier specs = none ↔ (places (earlier ++ specs)).Nodup := by
  induction specs generalizing earlier with
  | nil => simpa [sharedDestination?] using apart
  | cons spec rest ih =>
      rw [sharedDestination?]
      cases found : earlier.find? fun owner => owner.destination.agrees spec.destination with
      | none =>
          have next := nodup_places_concat_iff.mpr ⟨apart, find?_agrees_eq_none_iff.mp found⟩
          simpa using ih next
      | some owner =>
          have clash : ¬ (places (earlier ++ spec :: rest)).Nodup := fun all =>
            not_mem_places_of_nodup all (mem_places_of_find? found)
          simp [clash]

/-- What is told of some specifications after earlier ones: the first that goes to the file of
another one before it. -/
theorem sharedDestination?_eq_some_iff {earlier specs : List Spec} {shared : SharedDestination}
    (apart : (places earlier).Nodup) :
    sharedDestination? earlier specs = some shared ↔
      ∃ before spec later, specs = before ++ spec :: later ∧ (places (earlier ++ before)).Nodup ∧
        ∃ owner ∈ earlier ++ before, owner.destination.components = spec.destination.components ∧
          collision owner spec = shared := by
  -- The earlier specifications grow by one that is apart from them all.
  induction specs generalizing earlier with
  | nil => simp [sharedDestination?]
  | cons spec rest ih =>
      rw [sharedDestination?]
      cases found : earlier.find? fun owner => owner.destination.agrees spec.destination with
      | none =>
          have free := find?_agrees_eq_none_iff.mp found
          dsimp only
          rw [ih (nodup_places_concat_iff.mpr ⟨apart, free⟩)]
          constructor
          · rintro ⟨before, other, later, rfl, distinct, owner, member, same⟩
            exact ⟨spec :: before, other, later, rfl, by simpa using distinct, owner,
              by simpa using member, same⟩
          · rintro ⟨before, other, later, split, distinct, owner, member, same, rfl⟩
            cases before with
            | nil =>
                obtain ⟨rfl, rfl⟩ := List.cons.inj split
                exact absurd (same ▸ List.mem_map_of_mem (by simpa using member)) free
            | cons first before =>
                obtain ⟨rfl, rfl⟩ := List.cons.inj split
                exact ⟨before, other, later, rfl, by simpa using distinct, owner,
                  by simpa using member, same, rfl⟩
      | some owner =>
          dsimp only
          rw [Option.some_inj]
          constructor
          · rintro rfl
            obtain ⟨member, same⟩ := (find?_agrees_eq_some_iff apart).mp found
            exact ⟨[], spec, rest, rfl, by simpa using apart, owner, by simpa using member, same,
              rfl⟩
          · rintro ⟨before, other, later, split, distinct, another, member, same, rfl⟩
            cases before with
            | nil =>
                obtain ⟨rfl, rfl⟩ := List.cons.inj split
                have finds := (find?_agrees_eq_some_iff apart).mpr ⟨by simpa using member, same⟩
                rw [Option.some_inj.mp (found.symm.trans finds)]
                rfl
            | cons first before =>
                obtain ⟨rfl, rfl⟩ := List.cons.inj split
                exact absurd (mem_places_of_find? found) (not_mem_places_of_nodup distinct)

/-- The first entry that asks for the file of an earlier one, told with both their types. -/
def FirstCollision (loaded : LoadedConfig) (shared : SharedDestination) : Prop :=
  ∃ earlier entry later, loaded.config.enums = earlier ++ entry :: later ∧
    (earlier.map fun other => (loaded.destinationOf other).components).Nodup ∧
    ∃ owner ∈ earlier,
      (loaded.destinationOf owner).components = (loaded.destinationOf entry).components ∧
      shared = ⟨loaded.destinationOf entry, owner.typeName, entry.typeName⟩

theorem places_map_specOf (loaded : LoadedConfig) (entries : List EnumSettings) :
    places (entries.map loaded.specOf) =
      entries.map fun entry => (loaded.destinationOf entry).components := by
  rw [places, List.map_map]
  rfl

theorem specs_eq_ok_iff {specs : List Spec} :
    loaded.specs = .ok specs ↔
      (loaded.config.enums.map fun entry => (loaded.destinationOf entry).components).Nodup ∧
        loaded.config.enums.map loaded.specOf = specs := by
  have none : (places []).Nodup := List.nodup_nil
  have apart : sharedDestination? [] (loaded.config.enums.map loaded.specOf) = .none ↔ _ :=
    sharedDestination?_eq_none_iff none
  rw [List.nil_append, places_map_specOf] at apart
  rw [← apart, LoadedConfig.specs]
  cases sharedDestination? [] (loaded.config.enums.map loaded.specOf) <;> simp

theorem specs_eq_error_iff {shared : SharedDestination} :
    loaded.specs = .error shared ↔ loaded.FirstCollision shared := by
  have found : loaded.specs = .error shared ↔
      sharedDestination? [] (loaded.config.enums.map loaded.specOf) = some shared := by
    rw [LoadedConfig.specs]
    cases sharedDestination? [] (loaded.config.enums.map loaded.specOf) <;> simp
  have none : (places []).Nodup := List.nodup_nil
  rw [found, sharedDestination?_eq_some_iff none]
  constructor
  · rintro ⟨before, spec, later, split, distinct, owner, member, same, rfl⟩
    obtain ⟨earlier, rest, entries, rfl, tail⟩ := List.map_eq_append_iff.mp split
    obtain ⟨entry, following, rfl, rfl, rfl⟩ := List.map_eq_cons_iff.mp tail
    obtain ⟨first, placed, rfl⟩ := List.mem_map.mp member
    rw [List.nil_append, places_map_specOf] at distinct
    exact ⟨earlier, entry, following, entries, distinct, first, placed, same, rfl⟩
  · rintro ⟨earlier, entry, later, entries, distinct, owner, member, same, rfl⟩
    refine ⟨earlier.map loaded.specOf, loaded.specOf entry, later.map loaded.specOf,
      by simp [entries], ?_, loaded.specOf owner, List.mem_map_of_mem member, same, rfl⟩
    rwa [List.nil_append, places_map_specOf]

/-- A configuration resolves where its entries go to different files; then each entry makes a
specification of its own, in order. Otherwise the first clash is told. -/
theorem specs_resolution (loaded : LoadedConfig) :
    loaded.Based loaded.baseDirectory ∧
      (∀ entry, loaded.Placed entry (loaded.destinationOf entry)) ∧
      ((∃ specs, loaded.specs = .ok specs) ↔
        (loaded.config.enums.map fun entry => (loaded.destinationOf entry).components).Nodup) ∧
      (∀ specs, loaded.specs = .ok specs →
        List.Forall₂ loaded.Resolves loaded.config.enums specs) ∧
      (∀ shared, loaded.specs = .error shared ↔ loaded.FirstCollision shared) ∧
      ∀ left right : Path, left.components = right.components ↔ left.Respells right := by
  refine ⟨loaded.based_baseDirectory, loaded.placed_destinationOf, ?_, ?_,
    fun _ => specs_eq_error_iff, fun _ _ => Path.components_eq_iff_respells⟩
  · simp only [specs_eq_ok_iff, exists_and_left, exists_eq', and_true]
  · intro specs resolved
    obtain ⟨-, rfl⟩ := specs_eq_ok_iff.mp resolved
    rw [List.forall₂_map_right_iff, List.forall₂_same]
    exact fun entry _ => loaded.resolves_specOf entry

end LoadedConfig

end SealedEnum
