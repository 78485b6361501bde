import SealedEnum.Proofs.Spec.Valid

namespace SealedEnum

open SealedEnum.Identifier SealedEnum.Unicode

/-! Which specifications a validation accepts, and which fault it names in the others: the first
one, in the order of the fields and of the values. -/

namespace Identifier

def Continues (c : Char) : Prop :=
  isLetter c = true ∨ isDecimalDigit c = true ∨ c = '_'

/-- `[\p{L}_][\p{L}\p{Nd}_]*`, from the first character to the last. -/
def IsName (name : String) : Prop :=
  ∃ first rest, name.toList = first :: rest ∧ (isLetter first = true ∨ first = '_') ∧
    ∀ c ∈ rest, Continues c

/-- `\p{Lu}[\p{L}\p{Nd}_]*`, from the first character to the last. -/
def IsExportedName (name : String) : Prop :=
  ∃ first rest, name.toList = first :: rest ∧ isUppercaseLetter first = true ∧
    ∀ c ∈ rest, Continues c

theorem isPart_iff {c : Char} : isPart c = true ↔ Continues c := by
  simp [isPart, Continues, or_assoc]

theorem isName_iff {name : String} : IsName name ↔ isIdentifier name = true := by
  simp only [isIdentifier_iff, isPart_iff, isStart, Bool.or_eq_true, beq_iff_eq, IsName]

theorem isExportedName_iff {name : String} : IsExportedName name ↔ isExported name = true := by
  simp only [isExported_iff, isPart_iff, IsExportedName]

end Identifier

/-- The names that the file of a type declares besides its values. -/
def takenNames (typeName : String) : List String :=
  ["Of", "OfOrUndefined", "Values", typeName, "Marshallable" ++ typeName,
    "Invalid" ++ typeName ++ "NameError"]

/-- What a specification has to be, field by field. -/
structure Spec.Accepted (spec : Spec) : Prop where
  destination : spec.destination.text ≠ ""
  package : IsName spec.package ∧ spec.package ≠ "_" ∧ spec.package ∉ keywords
  typeName : IsExportedName spec.typeName ∧ spec.typeName ∉ ["Of", "OfOrUndefined", "Values"]
  some_value : spec.values ≠ []
  distinct : spec.values.Nodup
  values : ∀ value ∈ spec.values, IsExportedName value ∧ value ∉ takenNames spec.typeName
  undefined : ∀ value, spec.undefinedValue = some value → value ≠ "" → value ∈ spec.values
  json : spec.json.nilToUndefined = true →
    spec.json.generate = true ∧ ∃ value, spec.undefinedValue = some value ∧ value ≠ ""

/-- Something that can be wrong, and the violation that it is. -/
structure Fault where
  occurs : Prop
  violation : Violation

def destinationFaults (destination : Path) : List Fault :=
  [⟨destination.text = "", .emptyDestination⟩]

def packageFaults (package : String) : List Fault :=
  [⟨package = "", .emptyPackage⟩,
    ⟨¬ IsName package ∨ package = "_" ∨ package ∈ keywords, .invalidPackage package⟩]

def typeNameFaults (typeName : String) : List Fault :=
  [⟨typeName = "", .emptyTypeName⟩,
    ⟨¬ IsExportedName typeName, .invalidTypeName typeName⟩,
    ⟨typeName ∈ ["Of", "OfOrUndefined", "Values"], .reservedTypeName typeName⟩]

/-- The faults of the value at an index, given the values before it. -/
def valueFaults (typeName : String) (earlier : List String) (index : Nat) (value : String) :
    List Fault :=
  [⟨value = "", .emptyValue index⟩,
    ⟨¬ IsExportedName value, .invalidValueName value⟩,
    ⟨value ∈ takenNames typeName, .reservedValue value value⟩,
    ⟨value ∈ earlier, .duplicateValue value⟩]

def valuesFaults (typeName : String) (values : List String) : List Fault :=
  ⟨values = [], .noValues⟩ ::
    values.zipIdx.flatMap fun entry =>
      valueFaults typeName (values.take entry.2) entry.2 entry.1

namespace Spec

def undefinedFaults (spec : Spec) : List Fault :=
  spec.undefinedValue.toList.map fun value =>
    ⟨value ≠ "" ∧ value ∉ spec.values, .undefinedValueNotMember value⟩

def jsonFaults (spec : Spec) : List Fault :=
  [⟨spec.json.nilToUndefined = true ∧ spec.json.generate = false, .nilToUndefinedWithoutJson⟩,
    ⟨spec.json.nilToUndefined = true ∧ ∀ value, spec.undefinedValue = some value → value = "",
      .nilToUndefinedWithoutUndefinedValue⟩]

/-- All that can be wrong with a specification, the most important fault first. -/
def faults (spec : Spec) : List Fault :=
  destinationFaults spec.destination ++ packageFaults spec.package
    ++ typeNameFaults spec.typeName ++ valuesFaults spec.typeName spec.values
    ++ spec.undefinedFaults ++ spec.jsonFaults

end Spec

/-- The violation of the first fault that occurs. -/
inductive FirstViolation : List Fault → Violation → Prop where
  | here {fault : Fault} {rest : List Fault} (occurs : fault.occurs) :
      FirstViolation (fault :: rest) fault.violation
  | later {fault : Fault} {rest : List Fault} {violation : Violation} (absent : ¬ fault.occurs)
      (first : FirstViolation rest violation) : FirstViolation (fault :: rest) violation

namespace FirstViolation

variable {first second : List Fault} {violation : Violation}

theorem occurs (found : FirstViolation first violation) :
    ∃ fault ∈ first, fault.occurs ∧ fault.violation = violation := by
  induction found with
  | here occurs => exact ⟨_, List.mem_cons_self, occurs, rfl⟩
  | later _ _ ih =>
      obtain ⟨fault, member, occurs⟩ := ih
      exact ⟨fault, List.mem_cons_of_mem _ member, occurs⟩

theorem exists_of_occurs {fault : Fault} (member : fault ∈ first) (occurs : fault.occurs) :
    ∃ violation, FirstViolation first violation := by
  induction first with
  | nil => contradiction
  | cons head rest ih =>
      by_cases now : head.occurs
      · exact ⟨head.violation, .here now⟩
      · rcases List.mem_cons.mp member with rfl | later
        · exact absurd occurs now
        · exact (ih later).imp fun _ => .later now

theorem append_iff :
    FirstViolation (first ++ second) violation ↔
      FirstViolation first violation ∨
        (∀ fault ∈ first, ¬ fault.occurs) ∧ FirstViolation second violation := by
  induction first with
  | nil => simp [show ¬ FirstViolation [] violation from nofun]
  | cons head rest ih =>
      rw [List.cons_append, List.forall_mem_cons]
      constructor
      · intro found
        cases found with
        | here occurs => exact .inl (.here occurs)
        | later absent found =>
            rcases ih.mp found with early | ⟨absentRest, late⟩
            · exact .inl (.later absent early)
            · exact .inr ⟨⟨absent, absentRest⟩, late⟩
      · rintro (found | ⟨⟨absent, absentRest⟩, late⟩)
        · cases found with
          | here occurs => exact .here occurs
          | later absent found => exact .later absent (ih.mpr (.inl found))
        · exact .later absent (ih.mpr (.inr ⟨absentRest, late⟩))

end FirstViolation

/-- A check that finds the first of some faults. -/
def Finds (faults : List Fault) (found : Option Violation) : Prop :=
  ∀ violation, found = some violation ↔ FirstViolation faults violation

namespace Finds

variable {fault : Fault} {first second : List Fault} {found others : Option Violation}

theorem nil : Finds [] none :=
  fun _ => ⟨nofun, nofun⟩

theorem absent (finds : Finds first none) : ∀ fault ∈ first, ¬ fault.occurs := by
  intro fault member occurs
  obtain ⟨violation, found⟩ := FirstViolation.exists_of_occurs member occurs
  exact nomatch (finds violation).mpr found

theorem here (occurs : fault.occurs) : Finds (fault :: second) (some fault.violation) := by
  intro violation
  constructor
  · rintro ⟨rfl⟩
    exact .here occurs
  · intro first
    cases first with
    | here => rfl
    | later absent => exact absurd occurs absent

theorem later (absent : ¬ fault.occurs) (finds : Finds second found) :
    Finds (fault :: second) found := by
  intro violation
  rw [finds violation]
  constructor
  · exact .later absent
  · intro first
    cases first with
    | here occurs => exact absurd occurs absent
    | later _ first => exact first

theorem ite {condition : Prop} [Decidable condition] (same : condition ↔ fault.occurs)
    (finds : Finds second others) :
    Finds (fault :: second) (if condition then some fault.violation else others) := by
  split
  · rename_i holds
    exact .here (same.mp holds)
  · rename_i fails
    exact .later (fails ∘ same.mpr) finds

theorem append (early : Finds first found) (late : Finds second others) :
    Finds (first ++ second) (found <|> others) := by
  intro violation
  rw [FirstViolation.append_iff, ← early violation, ← late violation]
  cases found with
  | none => simpa using fun _ => early.absent
  | some earliest =>
      have broken : ¬ ∀ fault ∈ first, ¬ fault.occurs := by
        obtain ⟨fault, member, occurs, -⟩ := ((early earliest).mp rfl).occurs
        exact fun absent => absent fault member occurs
      simp [broken]

end Finds

theorem finds_destination (destination : Path) :
    Finds (destinationFaults destination) (destinationViolation? destination) :=
  .ite (by simp [Path.isEmpty]) .nil

theorem finds_package (package : String) :
    Finds (packageFaults package) (packageViolation? package) :=
  .ite (by simp) <| .ite (by simp [isName_iff, isKeyword, or_assoc, or_left_comm]) .nil

theorem finds_typeName (typeName : String) :
    Finds (typeNameFaults typeName) (typeNameViolation? typeName) :=
  .ite (by simp) <| .ite (by simp [isExportedName_iff]) <|
    .ite (by simp [generatedFunctions]) .nil

theorem valueViolation?_eq (taken earlier : List String) (value : String) :
    valueViolation? taken earlier value =
      if value.isEmpty then some (.emptyValue earlier.length)
      else if !isExported value then some (.invalidValueName value)
      else if value ∈ taken then some (.reservedValue value value)
      else if earlier.contains value then some (.duplicateValue value)
      else none := by
  unfold valueViolation?
  cases found : taken.find? (· == value) with
  | some identifier =>
      have same : identifier = value := by simpa using List.find?_some found
      have member : value ∈ taken := same ▸ List.mem_of_find?_eq_some found
      simp [same, member]
  | none =>
      have free : value ∉ taken := by
        intro member
        simpa using List.find?_eq_none.mp found value member
      simp [free]

theorem finds_value (typeName : String) (earlier : List String) (value : String) :
    Finds (valueFaults typeName earlier earlier.length value)
      (valueViolation? (reservedNames typeName) earlier value) := by
  rw [valueViolation?_eq]
  exact .ite (by simp) <| .ite (by simp [isExportedName_iff]) <| .ite Iff.rfl <|
    .ite (by simp) .nil

/-- The values are looked at one by one, and each is compared with all those before it. -/
theorem finds_laterValues (typeName : String) (earlier later : List String) :
    Finds
      ((later.zipIdx earlier.length).flatMap fun entry =>
        valueFaults typeName ((earlier ++ later).take entry.2) entry.2 entry.1)
      (firstValueViolation? (reservedNames typeName) earlier later) := by
  induction later generalizing earlier with
  | nil => exact .nil
  | cons value rest ih =>
      have before : (earlier ++ value :: rest).take earlier.length = earlier :=
        List.take_left
      have after := ih (earlier ++ [value])
      rw [List.length_append, List.length_singleton, List.append_assoc,
        List.singleton_append] at after
      have joined := (finds_value typeName earlier value).append after
      rw [List.zipIdx_cons, List.flatMap_cons]
      dsimp only
      rw [before]
      rw [firstValueViolation?]
      cases violation : valueViolation? (reservedNames typeName) earlier value with
      | some found =>
          rw [violation] at joined
          exact joined
      | none =>
          rw [violation] at joined
          exact joined

theorem finds_values (typeName : String) (values : List String) :
    Finds (valuesFaults typeName values) (valuesViolation? typeName values) :=
  .ite (by simp) (finds_laterValues typeName [] values)

namespace Spec

theorem undefined?_eq_some_iff {spec : Spec} {value : String} :
    spec.undefined? = some value ↔ spec.undefinedValue = some value ∧ value ≠ "" := by
  simp [undefined?, Option.filter_eq_some_iff]

theorem finds_undefined (spec : Spec) : Finds spec.undefinedFaults spec.undefinedViolation? := by
  unfold undefinedFaults undefinedViolation? undefined?
  cases spec.undefinedValue with
  | none => exact .nil
  | some value =>
      by_cases empty : value = ""
      · subst value
        exact .later (by simp) .nil
      · have kept : (some value).filter (fun value => !value.isEmpty) = some value := by
          simp [Option.filter, empty]
        rw [kept]
        dsimp only
        split
        · rename_i member
          exact .later (by simpa using fun _ => member) .nil
        · rename_i missing
          exact .here ⟨empty, by simpa using missing⟩

theorem finds_json (spec : Spec) : Finds spec.jsonFaults spec.jsonViolation? := by
  have unset : spec.undefined?.isNone = true ↔
      ∀ value, spec.undefinedValue = some value → value = "" := by
    unfold undefined?
    cases spec.undefinedValue <;> simp [Option.filter]
  unfold jsonViolation?
  split
  · rename_i strict
    have strict : spec.json.nilToUndefined = false := by simpa using strict
    exact .later (by simp [strict]) <| .later (by simp [strict]) .nil
  · rename_i lenient
    have lenient : spec.json.nilToUndefined = true := by simpa using lenient
    exact .ite (by simp [lenient]) <| .ite (by simp [lenient, unset]) .nil

theorem finds_faults (spec : Spec) : Finds spec.faults spec.violation? := by
  have found := (finds_destination spec.destination).append <|
    (finds_package spec.package).append <| (finds_typeName spec.typeName).append <|
      (finds_values spec.typeName spec.values).append <|
        spec.finds_undefined.append spec.finds_json
  simp only [faults, List.append_assoc]
  exact found

theorem accepted_iff_valid {spec : Spec} : spec.Accepted ↔ spec.Valid := by
  have fallback : spec.undefined?.isSome = true ↔
      ∃ value, spec.undefinedValue = some value ∧ value ≠ "" := by
    simp only [Option.isSome_iff_exists, undefined?_eq_some_iff]
  constructor
  · intro accepted
    exact {
      destination_named := by simpa [Path.isEmpty] using accepted.destination
      package_identifier := isName_iff.mp accepted.package.1
      package_named := accepted.package.2.1
      package_not_keyword := by simpa [isKeyword] using accepted.package.2.2
      typeName_exported := isExportedName_iff.mp accepted.typeName.1
      typeName_free := accepted.typeName.2
      values_nonempty := accepted.some_value
      values_exported := fun value member => isExportedName_iff.mp (accepted.values value member).1
      values_free := fun value member => (accepted.values value member).2
      values_nodup := accepted.distinct
      undefined_declared := by
        intro value undefined
        obtain ⟨named, nonempty⟩ := undefined?_eq_some_iff.mp undefined
        exact accepted.undefined value named nonempty
      fallback_possible := by simpa only [fallback] using accepted.json }
  · intro valid
    exact {
      destination := by simpa [Path.isEmpty] using valid.destination_named
      package := ⟨isName_iff.mpr valid.package_identifier, valid.package_named,
        by simpa [isKeyword] using valid.package_not_keyword⟩
      typeName := ⟨isExportedName_iff.mpr valid.typeName_exported, valid.typeName_free⟩
      some_value := valid.values_nonempty
      distinct := valid.values_nodup
      values := fun value member =>
        ⟨isExportedName_iff.mpr (valid.values_exported value member),
          valid.values_free value member⟩
      undefined := fun value named nonempty =>
        valid.undefined_declared value (undefined?_eq_some_iff.mpr ⟨named, nonempty⟩)
      json := by simpa only [fallback] using valid.fallback_possible }

theorem validate_eq_error_iff {spec : Spec} {violation : Violation} :
    spec.validate = .error violation ↔ spec.violation? = some violation := by
  unfold validate
  cases spec.violation? <;> simp

end Spec

/-- A specification is accepted if and only if it is what it has to be, and of a wrong one the
first fault is named. -/
theorem Spec.validate_reports (spec : Spec) :
    (spec.validate = .ok () ↔ spec.Accepted) ∧
      ∀ violation, spec.validate = .error violation ↔ FirstViolation spec.faults violation :=
  ⟨validate_eq_ok_iff.trans accepted_iff_valid.symm,
    fun violation => validate_eq_error_iff.trans (spec.finds_faults violation)⟩

end SealedEnum
