import SealedEnum.Proofs.Source.Scope

namespace SealedEnum

open SealedEnum.Identifier
open SealedEnum.Source
open SealedEnum.Unicode

/-! The package-level names of a rendered file never clash, with one another or with the names
that its code uses. -/

/-- The names a file declares, in the order of its declarations. -/
def Spec.packageNames (spec : Spec) : List String :=
  let names := DerivedNames.ofType spec.typeName
  [names.interface, names.base] ++ spec.values
    ++ ["allValues", "allValuesByString", "Values", "Of"]
    ++ (if spec.undefined?.isSome then ["OfOrUndefined"] else [])
    ++ (if spec.json.generate then [names.marshallable] else [])
    ++ [names.invalidNameError, names.invalidNameConstructor]

def importNames : List String :=
  ["json", "fmt"]

def predeclaredNames : List String :=
  ["string", "error", "byte", "nil", "len", "make", "copy"]

def localNames : List String :=
  ["name", "value", "values", "ok", "err", "m", "b", "e", "jsonBytes"]

/-- What the code of a file refers to without declaring it for the package. -/
def templateNames : List String :=
  importNames ++ predeclaredNames ++ localNames

theorem Model.declares_file (model : Model) :
    model.file.declares =
      [model.names.interface, model.names.base] ++ model.values
        ++ ["allValues", "allValuesByString", "Values", "Of"]
        ++ (if model.undefined.isSome then ["OfOrUndefined"] else [])
        ++ (if model.json.isSome then [model.names.marshallable] else [])
        ++ [model.names.invalidNameError, model.names.invalidNameConstructor] := by
  have base : model.baseDeclarations.flatMap Declaration.declares =
      [model.names.interface, model.names.base] ++ model.values
        ++ ["allValues", "allValuesByString", "Values"] := by
    simp [baseDeclarations, Declaration.declares, Registry.declares, registry]
  have fallback : ((model.undefined.filter fun _ => model.undefined.isSome).toList.map
      model.fallbackLookup).flatMap Declaration.declares =
        if model.undefined.isSome then ["OfOrUndefined"] else [] := by
    cases model.undefined <;> rfl
  have json : (if model.json.isSome then model.jsonDeclarations else []).flatMap
      Declaration.declares = if model.json.isSome then [model.names.marshallable] else [] := by
    cases model.json <;> rfl
  simp only [File.declares, file, declarations, has_fallbackLookup, has_jsonCodec,
    List.flatMap_append, base, fallback, json]
  simp [strictLookup, errorDeclarations, Declaration.declares]

theorem declares_ofSpec (spec : Spec) (license : Option String) :
    (Model.ofSpec spec license).file.declares = spec.packageNames := by
  rw [Model.declares_file, Model.ofSpec_json_isSome]
  rfl

theorem ne_of_isExported {name other : String} (exported : isExported name = true) {c : Char}
    (first : other.toList.head? = some c) (small : isUppercaseLetter c = false) :
    name ≠ other := by
  rintro rfl
  obtain ⟨start, rest, spelled, upper, _⟩ := isExported_iff.mp exported
  rw [spelled, List.head?_cons, Option.some.injEq] at first
  rw [first, small] at upper
  contradiction

theorem not_mem_templateNames {name : String} (exported : isExported name = true) :
    name ∉ templateNames := by
  have small : (templateNames.all fun word => !isExported word) = true := by
    decide +kernel
  intro member
  simpa [exported] using List.all_eq_true.mp small name member

/-- Everything a file may declare beside its type and values. -/
def fixedNames (typeName : String) : List String :=
  let names := DerivedNames.ofType typeName
  [names.base, "allValues", "allValuesByString", "Values", "Of", "OfOrUndefined",
    names.marshallable, names.invalidNameError, names.invalidNameConstructor]

theorem fixedNames_nodup (typeName : String) : (fixedNames typeName).Nodup := by
  simp [fixedNames, DerivedNames.ofType, ← String.toList_inj]

theorem mem_reserved_of_mem_fixedNames {typeName name : String}
    (exported : isExported name = true) (member : name ∈ fixedNames typeName) :
    name ∈ generatedFunctions ∨ name = (DerivedNames.ofType typeName).marshallable ∨
      name = (DerivedNames.ofType typeName).invalidNameError := by
  have small : ∀ {other : String} {c : Char}, other.toList.head? = some c →
      isUppercaseLetter c = false → name ≠ other :=
    fun first lower => ne_of_isExported exported first lower
  -- The fixed names that are not reserved start with a small letter.
  simp only [fixedNames, List.mem_cons, List.not_mem_nil, or_false] at member
  rcases member with same | same | same | same | same | same | same | same | same
  · exact absurd same (small (c := 'b') (by simp [DerivedNames.ofType]) (by decide))
  · exact absurd same (small (c := 'a') (by simp) (by decide))
  · exact absurd same (small (c := 'a') (by simp) (by decide))
  · exact .inl (by simp [generatedFunctions, same])
  · exact .inl (by simp [generatedFunctions, same])
  · exact .inl (by simp [generatedFunctions, same])
  · exact .inr (.inl same)
  · exact .inr (.inr same)
  · exact absurd same (small (c := 'n') (by simp [DerivedNames.ofType]) (by decide))

theorem typeName_not_mem_fixedNames {spec : Spec} (valid : spec.Valid) :
    spec.typeName ∉ fixedNames spec.typeName := by
  intro member
  rcases mem_reserved_of_mem_fixedNames valid.typeName_exported member with
    function | adapter | error
  · exact valid.typeName_free function
  · have longer := congrArg String.length adapter
    simp [DerivedNames.ofType] at longer
  · have longer := congrArg String.length error
    have affix : "Invalid".length = 7 := rfl
    simp only [DerivedNames.ofType, String.length_append] at longer
    omega

theorem value_not_mem_fixedNames {spec : Spec} (valid : spec.Valid) {value : String}
    (declared : value ∈ spec.values) : value ∉ fixedNames spec.typeName := by
  intro member
  apply valid.values_free value declared
  simp only [reservedNames, List.mem_append, List.mem_cons, List.not_mem_nil, or_false]
  rcases mem_reserved_of_mem_fixedNames (valid.values_exported value declared) member with
    function | adapter | error
  · exact .inl function
  · exact .inr (.inr (.inl adapter))
  · exact .inr (.inr (.inr error))

theorem allNames_nodup {spec : Spec} (valid : spec.Valid) :
    (spec.typeName :: (spec.values ++ fixedNames spec.typeName)).Nodup := by
  have typeFree : spec.typeName ∉ spec.values := by
    intro member
    exact valid.values_free spec.typeName member (by simp [reservedNames, DerivedNames.ofType])
  rw [List.nodup_cons, List.mem_append, not_or, List.nodup_append]
  refine ⟨⟨typeFree, typeName_not_mem_fixedNames valid⟩, valid.values_nodup,
    fixedNames_nodup spec.typeName, ?_⟩
  rintro value declared _ member rfl
  exact value_not_mem_fixedNames valid declared member

theorem packageNames_sublist (spec : Spec) :
    ∃ names, List.Sublist spec.packageNames names ∧
      names.Perm (spec.typeName :: (spec.values ++ fixedNames spec.typeName)) := by
  have optional : ∀ (condition : Bool) (name : String),
      List.Sublist (if condition then [name] else []) [name] := by
    intro condition name
    cases condition <;> simp
  refine ⟨spec.typeName :: (DerivedNames.ofType spec.typeName).base ::
    (spec.values ++ (fixedNames spec.typeName).tail), ?_, ?_⟩
  · simp only [Spec.packageNames, fixedNames, List.tail_cons, List.append_assoc,
      List.cons_append, List.nil_append]
    refine .cons_cons _ (.cons_cons _ (.append_left ?_ _))
    refine .cons_cons _ (.cons_cons _ (.cons_cons _ (.cons_cons _ ?_)))
    exact (optional _ _).append ((optional _ _).append (.refl _))
  · exact .cons _ List.perm_middle.symm

theorem packageNames_nodup {spec : Spec} (valid : spec.Valid) : spec.packageNames.Nodup := by
  obtain ⟨names, part, arranged⟩ := packageNames_sublist spec
  exact part.nodup (arranged.nodup_iff.mpr (allNames_nodup valid))

theorem isIdentifier_of_mem_fixedNames {spec : Spec} (valid : spec.Valid) {name : String}
    (member : name ∈ fixedNames spec.typeName) :
    isIdentifier name = true ∧ ∃ c ∈ name.toList, isUppercaseLetter c = true := by
  obtain ⟨_, base, marshallable, invalidNameError, constructor⟩ :=
    isIdentifier_names (valid.sound none)
  obtain ⟨c, inside, upper⟩ := exists_upper_of_isExported valid.typeName_exported
  -- Each name holds a capital of its own or one of the type name.
  have capital : ∀ {before after : String},
      ∃ c ∈ (before ++ spec.typeName ++ after).toList, isUppercaseLetter c = true :=
    ⟨c, by simp [inside], upper⟩
  simp only [fixedNames, List.mem_cons, List.not_mem_nil, or_false] at member
  rcases member with rfl | rfl | rfl | rfl | rfl | rfl | rfl | rfl | rfl
  · exact ⟨base, c, by simp [DerivedNames.ofType, inside], upper⟩
  · exact ⟨by decide, 'V', by simp, by decide⟩
  · exact ⟨by decide, 'V', by simp, by decide⟩
  · exact ⟨by decide, 'V', by simp, by decide⟩
  · exact ⟨by decide, 'O', by simp, by decide⟩
  · exact ⟨by decide, 'O', by simp, by decide⟩
  · exact ⟨marshallable, c, by simp [DerivedNames.ofType, inside], upper⟩
  · exact ⟨invalidNameError, capital⟩
  · exact ⟨constructor, capital⟩

theorem exists_upper_of_mem_packageNames {spec : Spec} (valid : spec.Valid) {name : String}
    (member : name ∈ spec.packageNames) :
    isIdentifier name = true ∧ ∃ c ∈ name.toList, isUppercaseLetter c = true := by
  obtain ⟨names, part, arranged⟩ := packageNames_sublist spec
  have kind := arranged.mem_iff.mp (part.subset member)
  rw [List.mem_cons, List.mem_append] at kind
  rcases kind with rfl | value | fixed
  · exact ⟨isIdentifier_of_isExported valid.typeName_exported,
      exists_upper_of_isExported valid.typeName_exported⟩
  · exact ⟨isIdentifier_of_isExported (valid.values_exported name value),
      exists_upper_of_isExported (valid.values_exported name value)⟩
  · exact isIdentifier_of_mem_fixedNames valid fixed

theorem isIdentifier_of_mem_packageNames {spec : Spec} (valid : spec.Valid) {name : String}
    (member : name ∈ spec.packageNames) : isIdentifier name = true ∧ isKeyword name = false := by
  obtain ⟨identifier, capital⟩ := exists_upper_of_mem_packageNames valid member
  exact ⟨identifier, isKeyword_eq_false capital⟩

/-- Whatever the type and the values are called, a file declares each name once, each is an
identifier that is no keyword, and the names its code refers to keep their meaning. -/
theorem declaredNames_of_valid (spec : Spec) (license : Option String)
    (accepted : spec.validate = .ok ()) :
    let names := declaredNames (Model.ofSpec spec license).render
    names = spec.packageNames ∧ names.Nodup ∧
      (∀ name ∈ names, isIdentifier name = true ∧ isKeyword name = false) ∧
        ∀ name ∈ spec.typeName :: spec.values, name ∉ templateNames := by
  have valid := Spec.validate_eq_ok_iff.mp accepted
  have read : declaredNames (Model.ofSpec spec license).render = spec.packageNames := by
    rw [declaredNames_render (valid.sound license), declares_ofSpec]
  simp only [read]
  refine ⟨trivial, packageNames_nodup valid,
    fun name member => isIdentifier_of_mem_packageNames valid member, ?_⟩
  intro name member
  rcases List.mem_cons.mp member with rfl | value
  · exact not_mem_templateNames valid.typeName_exported
  · exact not_mem_templateNames (valid.values_exported name value)

/-- A type and values that look like the affixes of derived names. -/
def affixSpec : Spec where
  destination := ⟨"out.go"⟩
  licenseFile := none
  package := "p"
  typeName := "Marshallable"
  values := ["Invalid", "MarshallableÄ", "NameError"]
  undefinedValue := some "Invalid"
  json := ⟨true, true⟩

theorem declaredNames_affixSpec :
    affixSpec.validate = .ok () ∧
      declaredNames (Model.ofSpec affixSpec none).render = affixSpec.packageNames ∧
        affixSpec.packageNames.Nodup := by
  have accepted : affixSpec.validate = .ok () := rfl
  have names := declaredNames_of_valid affixSpec none accepted
  exact ⟨accepted, names.1, names.1 ▸ names.2.1⟩

end SealedEnum
