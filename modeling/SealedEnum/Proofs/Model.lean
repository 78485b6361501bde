import SealedEnum.Model
import SealedEnum.Proofs.Spec.Valid
import SealedEnum.Source.OfModel

namespace SealedEnum

open SealedEnum.Identifier

/-! Models of valid specifications, and their capabilities in terms of their fields. -/

namespace Shape

theorem mem_capabilities_iff {shape : Shape} {capability : Capability} :
    capability ∈ shape.capabilities ↔ shape.includes capability = true := by
  have known : capability ∈ Capability.all := by cases capability <;> decide
  simp [capabilities, known]

theorem eq_of_includes {first second : Shape}
    (fallbackLookup : first.includes .fallbackLookup = second.includes .fallbackLookup)
    (jsonCodec : first.includes .jsonCodec = second.includes .jsonCodec)
    (nilToUndefined : first.includes .nilToUndefined = second.includes .nilToUndefined) :
    first = second := by
  cases first <;> cases second <;> first | rfl | contradiction

end Shape

structure Model.Sound (model : Model) : Prop where
  package_identifier : isIdentifier model.package = true
  package_not_keyword : isKeyword model.package = false
  typeName_exported : isExported model.typeName = true
  typeName_free : model.typeName ∉ generatedFunctions
  values_nonempty : model.values ≠ []
  values_exported : ∀ value ∈ model.values, isExported value = true
  values_free : ∀ value ∈ model.values, value ∉ reservedNames model.typeName
  values_nodup : model.values.Nodup
  undefined_declared : ∀ value, model.undefined = some value → value ∈ model.values
  fallback_possible : model.json = some .nilToUndefined → model.undefined.isSome = true

theorem Model.ofSpec_json_eq_nilToUndefined_iff {spec : Spec} {license : Option String} :
    (ofSpec spec license).json = some .nilToUndefined ↔
      spec.json.generate = true ∧ spec.json.nilToUndefined = true := by
  cases generate : spec.json.generate <;> cases asked : spec.json.nilToUndefined <;>
    simp [ofSpec, generate, asked]

theorem Spec.Valid.sound {spec : Spec} (valid : spec.Valid) (license : Option String) :
    (Model.ofSpec spec license).Sound where
  package_identifier := valid.package_identifier
  package_not_keyword := valid.package_not_keyword
  typeName_exported := valid.typeName_exported
  typeName_free := valid.typeName_free
  values_nonempty := valid.values_nonempty
  values_exported := valid.values_exported
  values_free := valid.values_free
  values_nodup := valid.values_nodup
  undefined_declared := valid.undefined_declared
  fallback_possible policy :=
    (valid.fallback_possible (Model.ofSpec_json_eq_nilToUndefined_iff.mp policy).2).2

namespace Model

variable {model : Model}

theorem Sound.typeName_identifier (sound : model.Sound) :
    isIdentifier model.typeName = true :=
  isIdentifier_of_isExported sound.typeName_exported

theorem Sound.value_identifier (sound : model.Sound) {value : String}
    (member : value ∈ model.values) : isIdentifier value = true :=
  isIdentifier_of_isExported (sound.values_exported value member)

theorem Sound.undefined_identifier (sound : model.Sound) {value : String}
    (undefined : model.undefined = some value) : isIdentifier value = true :=
  sound.value_identifier (sound.undefined_declared value undefined)

@[simp] theorem has_fallbackLookup : model.has .fallbackLookup = model.undefined.isSome := by
  unfold has shape
  rcases model.undefined with - | value <;> rcases model.json with - | (- | -) <;> rfl

@[simp] theorem has_jsonCodec : model.has .jsonCodec = model.json.isSome := by
  unfold has shape
  rcases model.undefined with - | value <;> rcases model.json with - | (- | -) <;> rfl

theorem has_nilToUndefined :
    model.has .nilToUndefined =
      (model.undefined.isSome && model.json == some .nilToUndefined) := by
  unfold has shape
  rcases model.undefined with - | value <;> rcases model.json with - | (- | -) <;> rfl

theorem has_others_of_nilToUndefined (asked : model.has .nilToUndefined = true) :
    model.has .fallbackLookup = true ∧ model.has .jsonCodec = true := by
  rw [has_nilToUndefined, Bool.and_eq_true, beq_iff_eq] at asked
  obtain ⟨undefined, policy⟩ := asked
  rw [has_fallbackLookup, has_jsonCodec, policy]
  exact ⟨undefined, rfl⟩

theorem decodeFallback_eq :
    model.decodeFallback =
      if model.json = some .nilToUndefined then model.undefined else none := by
  unfold decodeFallback
  rw [has_nilToUndefined]
  rcases model.undefined with - | value <;> rcases model.json with - | (- | -) <;> rfl

theorem undefined_of_decodeFallback {value : String}
    (fallback : model.decodeFallback = some value) : model.undefined = some value := by
  rw [decodeFallback_eq] at fallback
  split at fallback
  · exact fallback
  · contradiction

theorem exists_decodeBody_eq_cons (model : Model) :
    ∃ first others, model.decodeBody = first :: others := by
  unfold decodeBody
  split <;> exact ⟨_, _, rfl⟩

theorem decodeBody_of_strict (strict : model.has .nilToUndefined = false) :
    model.decodeBody = model.strictDecodeBody := by
  have nothing : model.decodeFallback = none := by
    simp [decodeFallback, strict]
  rw [decodeBody, nothing]

theorem exists_decodeBody_of_nilToUndefined (asked : model.has .nilToUndefined = true) :
    ∃ undefined, model.undefined = some undefined ∧
      model.decodeBody = fallbackDecodeBody undefined := by
  have possible := (has_others_of_nilToUndefined asked).1
  rw [has_fallbackLookup] at possible
  obtain ⟨undefined, found⟩ := Option.isSome_iff_exists.mp possible
  have fallback : model.decodeFallback = some undefined := by
    simp [decodeFallback, found, asked]
  exact ⟨undefined, found, by rw [decodeBody, fallback]⟩

theorem imports_eq (model : Model) :
    model.imports =
      if model.json.isSome then
        if model.decodeFallback.isSome then ["encoding/json"] else ["encoding/json", "fmt"]
      else [] := by
  unfold imports
  rw [has_jsonCodec]
  cases model.json.isSome <;> rfl

theorem ofSpec_json_isSome (spec : Spec) (license : Option String) :
    (ofSpec spec license).json.isSome = spec.json.generate := by
  unfold ofSpec
  cases spec.json.generate <;> cases spec.json.nilToUndefined <;> rfl

theorem ofSpec_congr {spec : Spec} {undefinedValue : Option String} {licenseFile : Option Path}
    (same : { spec with undefinedValue, licenseFile }.undefined? = spec.undefined?)
    (license : Option String) :
    ofSpec { spec with undefinedValue, licenseFile } license = ofSpec spec license := by
  simp only [ofSpec, same]

/-- The options of a specification are the capabilities and the decode policy of a model. -/
structure Reflects (model : Model) (spec : Spec) : Prop where
  fallbackLookup : model.has .fallbackLookup = true ↔ spec.undefined?.isSome = true
  jsonCodec : model.has .jsonCodec = true ↔ spec.json.generate = true
  nilToUndefined : model.has .nilToUndefined = true ↔ model.json = some .nilToUndefined
  policy : model.json = some .nilToUndefined ↔ spec.json.nilToUndefined = true
  others_of_nilToUndefined : model.has .nilToUndefined = true →
    model.has .fallbackLookup = true ∧ model.has .jsonCodec = true
  listed : ∀ capability, capability ∈ model.capabilities ↔ model.has capability = true

theorem reflects_ofSpec {spec : Spec} (valid : spec.Valid) (license : Option String) :
    (ofSpec spec license).Reflects spec where
  fallbackLookup := by
    rw [has_fallbackLookup]
    rfl
  jsonCodec := by rw [has_jsonCodec, ofSpec_json_isSome]
  nilToUndefined := by
    rw [has_nilToUndefined, Bool.and_eq_true, beq_iff_eq]
    exact ⟨And.right, fun policy => ⟨(valid.sound license).fallback_possible policy, policy⟩⟩
  policy := by
    rw [ofSpec_json_eq_nilToUndefined_iff]
    exact ⟨And.right, fun asked => ⟨(valid.fallback_possible asked).1, asked⟩⟩
  others_of_nilToUndefined := has_others_of_nilToUndefined
  listed _ := Shape.mem_capabilities_iff

variable {first second : Model} {spec other : Spec} {license : Option String}

theorem build_eq_ok_iff : build spec license = .ok model ↔
    spec.Valid ∧ ofSpec spec license = model := by
  rw [← Spec.validate_eq_ok_iff, build]
  cases spec.validate <;> simp

theorem Reflects.has_eq (reflects : model.Reflects spec) :
    model.has .fallbackLookup = spec.undefined?.isSome ∧
      model.has .jsonCodec = spec.json.generate ∧
      model.has .nilToUndefined = spec.json.nilToUndefined :=
  ⟨Bool.eq_iff_iff.mpr reflects.fallbackLookup, Bool.eq_iff_iff.mpr reflects.jsonCodec,
    Bool.eq_iff_iff.mpr (reflects.nilToUndefined.trans reflects.policy)⟩

/-- The shape of a model and the options of its specification determine each other. -/
theorem Reflects.shape_eq_iff (reflects : first.Reflects spec)
    (alike : second.Reflects other) :
    first.shape = second.shape ↔
      spec.undefined?.isSome = other.undefined?.isSome ∧
        spec.json.generate = other.json.generate ∧
        spec.json.nilToUndefined = other.json.nilToUndefined := by
  obtain ⟨fallbackLookup, jsonCodec, nilToUndefined⟩ := reflects.has_eq
  obtain ⟨fallbackLookup', jsonCodec', nilToUndefined'⟩ := alike.has_eq
  rw [← fallbackLookup, ← jsonCodec, ← nilToUndefined, ← fallbackLookup', ← jsonCodec',
    ← nilToUndefined']
  constructor
  · intro same
    have included : ∀ capability, first.has capability = second.has capability :=
      fun capability => congrArg (Shape.includes · capability) same
    exact ⟨included _, included _, included _⟩
  · rintro ⟨undefined, json, policy⟩
    exact Shape.eq_of_includes undefined json policy

end Model

end SealedEnum
