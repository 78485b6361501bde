import SealedEnum.Generation

namespace SealedEnum

/-! Specifications picked by the names of their types. -/

/-- Some specification is for a type of the name. -/
def Known (specs : List Spec) (name : String) : Prop :=
  ∃ spec ∈ specs, spec.typeName = name

/-- The specifications whose types are named, all of them and in their own order. -/
inductive Selection (names : List String) : List Spec → List Spec → Prop where
  | nil : Selection names [] []
  | take {spec : Spec} {specs selected : List Spec} (named : spec.typeName ∈ names)
      (rest : Selection names specs selected) : Selection names (spec :: specs) (spec :: selected)
  | skip {spec : Spec} {specs selected : List Spec} (unnamed : spec.typeName ∉ names)
      (rest : Selection names specs selected) : Selection names (spec :: specs) selected

/-- The first of some names that no specification has for its type. -/
def FirstUnknown (specs : List Spec) (names : List String) (missing : String) : Prop :=
  ∃ earlier later, names = earlier ++ missing :: later ∧
    (∀ name ∈ earlier, Known specs name) ∧ ¬ Known specs missing

variable {specs selected part : List Spec} {names others : List String} {name : String}
  {failure : Failure}

theorem known_cons {spec : Spec} :
    Known (spec :: specs) name ↔ spec.typeName = name ∨ Known specs name := by
  simp [Known]

theorem selection_filter (names : List String) (specs : List Spec) :
    Selection names specs (specs.filter fun spec => names.contains spec.typeName) := by
  induction specs with
  | nil => exact .nil
  | cons spec rest ih =>
      by_cases named : spec.typeName ∈ names
      · rw [List.filter_cons_of_pos (by simpa using named)]
        exact .take named ih
      · rw [List.filter_cons_of_neg (by simpa using named)]
        exact .skip named ih

namespace Selection

theorem eq_filter (selection : Selection names specs selected) :
    selected = specs.filter fun spec => names.contains spec.typeName := by
  induction selection with
  | nil => rfl
  | take named _ ih => rw [List.filter_cons_of_pos (by simpa using named), ← ih]
  | skip unnamed _ ih => rw [List.filter_cons_of_neg (by simpa using unnamed), ← ih]

theorem congr (same : ∀ name, name ∈ names ↔ name ∈ others)
    (selection : Selection names specs selected) : Selection others specs selected := by
  induction selection with
  | nil => exact .nil
  | take named _ ih => exact .take ((same _).mp named) ih
  | skip unnamed _ ih => exact .skip (mt (same _).mpr unnamed) ih

theorem known_iff (selection : Selection names specs selected) :
    Known selected name ↔ Known specs name ∧ name ∈ names := by
  induction selection with
  | nil => simp [Known]
  | take named _ ih =>
      rw [known_cons, known_cons, ih]
      constructor
      · rintro (rfl | ⟨found, among⟩)
        · exact ⟨.inl rfl, named⟩
        · exact ⟨.inr found, among⟩
      · rintro ⟨rfl | found, among⟩
        · exact .inl rfl
        · exact .inr ⟨found, among⟩
  | skip unnamed _ ih =>
      rw [known_cons, ih]
      constructor
      · rintro ⟨found, among⟩
        exact ⟨.inr found, among⟩
      · rintro ⟨rfl | found, among⟩
        · contradiction
        · exact ⟨found, among⟩

/-- Fewer names pick the same from a selection as from all. -/
theorem of_selected (selection : Selection names specs selected)
    (within : ∀ name ∈ others, name ∈ names) (again : Selection others selected part) :
    Selection others specs part := by
  induction selection generalizing part with
  | nil => exact again
  | take _ _ ih =>
      cases again with
      | take picked rest => exact .take picked (ih rest)
      | skip unpicked rest => exact .skip unpicked (ih rest)
  | skip unnamed _ ih => exact .skip (fun picked => unnamed (within _ picked)) (ih again)

end Selection

theorem find?_unknown_eq_none_iff :
    (names.find? fun name => !(specs.map Spec.typeName).contains name) = none ↔
      ∀ name ∈ names, Known specs name := by
  simp [List.find?_eq_none, Known]

theorem find?_unknown_eq_some_iff {missing : String} :
    (names.find? fun name => !(specs.map Spec.typeName).contains name) = some missing ↔
      FirstUnknown specs names missing := by
  simp only [List.find?_eq_some_iff_append, FirstUnknown, Known]
  constructor
  · rintro ⟨unknown, earlier, later, split, before⟩
    exact ⟨earlier, later, split, by simpa using before, by simpa using unknown⟩
  · rintro ⟨earlier, later, split, before, unknown⟩
    exact ⟨by simpa using unknown, earlier, later, split, by simpa using before⟩

theorem selectOnly_eq_ok (known : ∀ name ∈ names, Known specs name) :
    selectOnly names specs =
      .ok (specs.filter fun spec => names.isEmpty || names.contains spec.typeName) := by
  unfold selectOnly
  cases names with
  | nil => exact congrArg Except.ok (List.filter_eq_self.mpr fun _ _ => rfl).symm
  | cons first rest =>
      rw [find?_unknown_eq_none_iff.mpr known]
      rfl

theorem selectOnly_eq_ok_iff (asked : names ≠ []) :
    selectOnly names specs = .ok selected ↔
      (∀ name ∈ names, Known specs name) ∧ Selection names specs selected := by
  have some : names.isEmpty = false := by simpa using asked
  constructor
  · intro succeeds
    simp only [selectOnly, some, Bool.false_eq_true, if_false] at succeeds
    split at succeeds
    · contradiction
    · rename_i none
      cases succeeds
      exact ⟨find?_unknown_eq_none_iff.mp none, selection_filter names specs⟩
  · rintro ⟨known, selection⟩
    rw [selectOnly_eq_ok known, selection.eq_filter]
    simp [some]

theorem selectOnly_eq_error_iff :
    selectOnly names specs = .error failure ↔
      ∃ missing, FirstUnknown specs names missing ∧ failure = .typeNotFound missing := by
  simp only [← find?_unknown_eq_some_iff]
  cases names with
  | nil => simp [selectOnly]
  | cons first rest =>
      rw [selectOnly, if_neg (by simp)]
      cases (first :: rest).find? fun name => !(specs.map Spec.typeName).contains name with
      | none => simp
      | some missing => simp [eq_comm]

theorem exists_selectOnly_eq_ok_iff (asked : names ≠ []) :
    (∃ selected, selectOnly names specs = .ok selected) ↔ ∀ name ∈ names, Known specs name := by
  simp only [selectOnly_eq_ok_iff asked, exists_and_left, and_iff_left_iff_imp]
  exact fun _ => ⟨_, selection_filter names specs⟩

theorem selectOnly_congr (same : ∀ name, name ∈ names ↔ name ∈ others) :
    selectOnly names specs = .ok selected ↔ selectOnly others specs = .ok selected := by
  by_cases asked : names = []
  · subst asked
    have none : others = [] := List.eq_nil_iff_forall_not_mem.mpr fun name member =>
      List.not_mem_nil ((same name).mpr member)
    rw [none]
  · have others_asked : others ≠ [] := by
      rintro rfl
      exact asked (List.eq_nil_iff_forall_not_mem.mpr fun name member =>
        List.not_mem_nil ((same name).mp member))
    rw [selectOnly_eq_ok_iff asked, selectOnly_eq_ok_iff others_asked]
    exact and_congr (forall_congr' fun name => imp_congr_left (same name))
      ⟨.congr same, .congr fun name => (same name).symm⟩

theorem bind_selectOnly_eq_ok_iff (asked : names ≠ []) (again : others ≠ []) :
    (selectOnly names specs).bind (selectOnly others) = .ok part ↔
      (∃ selected, selectOnly names specs = .ok selected) ∧ (∀ name ∈ others, name ∈ names) ∧
        selectOnly others specs = .ok part := by
  cases first : selectOnly names specs with
  | error failure => simp [Except.bind]
  | ok selected =>
      obtain ⟨known, selection⟩ := (selectOnly_eq_ok_iff asked).mp first
      simp only [Except.bind, Except.ok.injEq, exists_eq', true_and, selectOnly_eq_ok_iff again]
      constructor
      · rintro ⟨found, picked⟩
        have within : ∀ name ∈ others, name ∈ names := fun name member =>
          (selection.known_iff.mp (found name member)).2
        exact ⟨within, fun name member => known name (within name member),
          selection.of_selected within picked⟩
      · rintro ⟨within, found, picked⟩
        refine ⟨fun name member => selection.known_iff.mpr ⟨found name member, within name member⟩,
          ?_⟩
        -- What is picked from the selection is picked from all, and there is one such list.
        have chosen := selection_filter others selected
        rwa [(selection.of_selected within chosen).eq_filter, ← picked.eq_filter] at chosen

/-- No names select everything. Other names select the specifications of their types if each has
one, and otherwise the first name without one is told. Only which names there are counts, so that a
second selection, of names from the first, might as well have been the only one. -/
theorem selectOnly_selects (specs : List Spec) :
    selectOnly [] specs = .ok specs ∧
    (∀ names, names ≠ [] →
      ((∃ selected, selectOnly names specs = .ok selected) ↔ ∀ name ∈ names, Known specs name) ∧
      (∀ selected, selectOnly names specs = .ok selected → Selection names specs selected) ∧
      ∀ failure, selectOnly names specs = .error failure →
        ∃ missing, FirstUnknown specs names missing ∧ failure = .typeNotFound missing) ∧
    (∀ names others, (∀ name, name ∈ names ↔ name ∈ others) → ∀ selected,
      selectOnly names specs = .ok selected ↔ selectOnly others specs = .ok selected) ∧
    ∀ names others, names ≠ [] → others ≠ [] →
      ((∃ part, (selectOnly names specs).bind (selectOnly others) = .ok part) ↔
        (∃ selected, selectOnly names specs = .ok selected) ∧ ∀ name ∈ others, name ∈ names) ∧
      ∀ part, (selectOnly names specs).bind (selectOnly others) = .ok part →
        selectOnly others specs = .ok part := by
  refine ⟨rfl, ?_, fun _ _ same _ => selectOnly_congr same, ?_⟩
  · intro names asked
    exact ⟨exists_selectOnly_eq_ok_iff asked,
      fun _ succeeds => ((selectOnly_eq_ok_iff asked).mp succeeds).2,
      fun _ fails => selectOnly_eq_error_iff.mp fails⟩
  · intro names others asked again
    refine ⟨?_, fun _ both => ((bind_selectOnly_eq_ok_iff asked again).mp both).2.2⟩
    simp only [bind_selectOnly_eq_ok_iff asked again, exists_and_left,
      exists_selectOnly_eq_ok_iff asked, exists_selectOnly_eq_ok_iff again]
    constructor
    · rintro ⟨known, within, -⟩
      exact ⟨known, within⟩
    · rintro ⟨known, within⟩
      exact ⟨known, within, fun name member => known name (within name member)⟩

end SealedEnum
