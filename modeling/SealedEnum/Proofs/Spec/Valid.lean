import SealedEnum.Proofs.Identifier
import SealedEnum.Spec.Validation

namespace SealedEnum

open SealedEnum.Identifier

/-! The specifications that validation accepts, field by field. -/

structure Spec.Valid (spec : Spec) : Prop where
  destination_named : spec.destination.isEmpty = false
  package_identifier : isIdentifier spec.package = true
  package_named : spec.package ≠ "_"
  package_not_keyword : isKeyword spec.package = false
  typeName_exported : isExported spec.typeName = true
  typeName_free : spec.typeName ∉ generatedFunctions
  values_nonempty : spec.values ≠ []
  values_exported : ∀ value ∈ spec.values, isExported value = true
  values_free : ∀ value ∈ spec.values, value ∉ reservedNames spec.typeName
  values_nodup : spec.values.Nodup
  undefined_declared : ∀ value, spec.undefined? = some value → value ∈ spec.values
  fallback_possible : spec.json.nilToUndefined = true →
    spec.json.generate = true ∧ spec.undefined?.isSome = true

theorem destinationViolation?_eq_none_iff {destination : Path} :
    destinationViolation? destination = none ↔ destination.isEmpty = false := by
  unfold destinationViolation?
  split <;> simp_all

theorem packageViolation?_eq_none_iff {package : String} :
    packageViolation? package = none ↔
      isIdentifier package = true ∧ package ≠ "_" ∧ isKeyword package = false := by
  unfold packageViolation?
  split
  · rename_i empty
    have spelled : package = "" := by simpa using empty
    subst package
    simp [isIdentifier]
  · split
    · rename_i wrong
      simp only [Bool.or_eq_true, decide_eq_true_eq, Bool.not_eq_true'] at wrong
      simp only [reduceCtorEq, false_iff]
      rintro ⟨identifier, named, notKeyword⟩
      simp [identifier, named, notKeyword] at wrong
    · simp_all

theorem typeNameViolation?_eq_none_iff {typeName : String} :
    typeNameViolation? typeName = none ↔
      isExported typeName = true ∧ typeName ∉ generatedFunctions := by
  unfold typeNameViolation?
  split
  · rename_i empty
    have spelled : typeName = "" := by simpa using empty
    subst typeName
    simp [isExported]
  · split
    · simp_all
    · split <;> simp_all

theorem valueViolation?_eq_none_iff {reserved earlier : List String} {value : String} :
    valueViolation? reserved earlier value = none ↔
      isExported value = true ∧ value ∉ reserved ∧ value ∉ earlier := by
  unfold valueViolation?
  split
  · rename_i empty
    have spelled : value = "" := by simpa using empty
    subst value
    simp [isExported]
  · split
    · simp_all
    · cases found : reserved.find? (· == value) with
      | some identifier =>
          have member : value ∈ reserved := by
            have same : identifier = value := by simpa using List.find?_some found
            exact same ▸ List.mem_of_find?_eq_some found
          simp [member]
      | none =>
          have free : value ∉ reserved := by
            intro member
            simpa using List.find?_eq_none.mp found value member
          simp_all

theorem firstValueViolation?_eq_none_iff {reserved earlier values : List String} :
    firstValueViolation? reserved earlier values = none ↔
      (∀ value ∈ values, isExported value = true ∧ value ∉ reserved ∧ value ∉ earlier) ∧
        values.Nodup := by
  induction values generalizing earlier with
  | nil => simp [firstValueViolation?]
  | cons value rest ih =>
      rw [firstValueViolation?]
      cases violation : valueViolation? reserved earlier value with
      | some found =>
          have wrong : ¬ (isExported value = true ∧ value ∉ reserved ∧ value ∉ earlier) := by
            rw [← valueViolation?_eq_none_iff, violation]
            simp
          simp only [reduceCtorEq, false_iff]
          intro ⟨sound, _⟩
          exact wrong (sound value (by simp))
      | none =>
          have sound := valueViolation?_eq_none_iff.mp violation
          simp only [ih, List.nodup_cons, List.mem_cons, List.mem_append]
          constructor
          · rintro ⟨later, nodup⟩
            refine ⟨?_, fun member => ?_, nodup⟩
            · rintro other (rfl | member)
              · exact sound
              · obtain ⟨exported, free, fresh⟩ := later other member
                exact ⟨exported, free, fun found => fresh (.inl found)⟩
            · exact (later value member).2.2 (by simp)
          · rintro ⟨all, fresh, nodup⟩
            refine ⟨fun other member => ?_, nodup⟩
            obtain ⟨exported, free, new⟩ := all other (.inr member)
            refine ⟨exported, free, ?_⟩
            rintro (found | found)
            · exact new found
            · rcases found with same | absent
              · exact fresh (same ▸ member)
              · contradiction

theorem valuesViolation?_eq_none_iff {typeName : String} {values : List String} :
    valuesViolation? typeName values = none ↔
      values ≠ [] ∧ (∀ value ∈ values, isExported value = true) ∧
        (∀ value ∈ values, value ∉ reservedNames typeName) ∧ values.Nodup := by
  unfold valuesViolation?
  split
  · rename_i empty
    simp [List.isEmpty_iff.mp empty]
  · rename_i nonempty
    rw [firstValueViolation?_eq_none_iff]
    constructor
    · rintro ⟨sound, nodup⟩
      exact ⟨by simpa using nonempty, fun value member => (sound value member).1,
        fun value member => (sound value member).2.1, nodup⟩
    · rintro ⟨_, exported, free, nodup⟩
      exact ⟨fun value member => ⟨exported value member, free value member, by simp⟩, nodup⟩

namespace Spec

theorem undefinedViolation?_eq_none_iff {spec : Spec} :
    spec.undefinedViolation? = none ↔
      ∀ value, spec.undefined? = some value → value ∈ spec.values := by
  unfold undefinedViolation?
  cases spec.undefined? with
  | none => simp
  | some value => simp

theorem jsonViolation?_eq_none_iff {spec : Spec} :
    spec.jsonViolation? = none ↔
      (spec.json.nilToUndefined = true →
        spec.json.generate = true ∧ spec.undefined?.isSome = true) := by
  unfold jsonViolation?
  cases spec.json.nilToUndefined with
  | false => simp
  | true =>
      cases spec.json.generate with
      | false => simp
      | true => cases spec.undefined? <;> simp

theorem violation?_eq_none_iff {spec : Spec} : spec.violation? = none ↔ spec.Valid := by
  simp only [violation?, Option.orElse_eq_orElse, Option.orElse_eq_or, Option.or_eq_none_iff,
    destinationViolation?_eq_none_iff, packageViolation?_eq_none_iff,
    typeNameViolation?_eq_none_iff, valuesViolation?_eq_none_iff,
    undefinedViolation?_eq_none_iff, jsonViolation?_eq_none_iff]
  constructor
  · rintro ⟨destination, ⟨package, named, notKeyword⟩, ⟨exported, free⟩,
      ⟨nonempty, valuesExported, valuesFree, nodup⟩, undefined, json⟩
    exact ⟨destination, package, named, notKeyword, exported, free, nonempty,
      valuesExported, valuesFree, nodup, undefined, json⟩
  · intro valid
    exact ⟨valid.destination_named,
      ⟨valid.package_identifier, valid.package_named, valid.package_not_keyword⟩,
      ⟨valid.typeName_exported, valid.typeName_free⟩,
      ⟨valid.values_nonempty, valid.values_exported, valid.values_free, valid.values_nodup⟩,
      valid.undefined_declared, valid.fallback_possible⟩

/-- Validation reads the undefined value only where it is not empty, and no license. -/
theorem validate_congr {spec : Spec} {undefinedValue : Option String}
    {licenseFile : Option Path}
    (same : { spec with undefinedValue, licenseFile }.undefined? = spec.undefined?) :
    { spec with undefinedValue, licenseFile }.validate = spec.validate := by
  simp only [validate, violation?, undefinedViolation?, jsonViolation?, same]

theorem validate_eq_ok_iff {spec : Spec} : spec.validate = .ok () ↔ spec.Valid := by
  rw [← violation?_eq_none_iff, validate]
  cases spec.violation? <;> simp

end Spec

end SealedEnum
