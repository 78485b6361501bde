import SealedEnum.Proofs.Association
import SealedEnum.Proofs.Config.Loading

namespace SealedEnum

/-! Loading a configuration twice. A variable file only sets what is not set, and what it sets it
finds set the next time, so that nothing is left to do. -/

namespace Variables

variable {values after : Variables} {name : String}

theorem entries_set (values : Variables) (name : String) (value : Option String) :
    (values.set name value).entries = Association.update values.entries name value :=
  apply_ite Variables.entries _ _ _

theorem lookup?_set (values : Variables) (name other : String) (value : Option String) :
    (values.set name value).lookup? other =
      if other = name then value else values.lookup? other := by
  rw [lookup?, entries_set, Association.lookup_update]
  exact (apply_ite Option.join _ _ _)

/-- Every variable that is set to text keeps its value. -/
def Extends (values after : Variables) : Prop :=
  ∀ name value, values.lookup? name = some value → after.lookup? name = some value

theorem Extends.refl (values : Variables) : values.Extends values :=
  fun _ _ set => set

theorem Extends.trans {later : Variables} (first : values.Extends after)
    (second : after.Extends later) : values.Extends later :=
  fun name value set => second name value (first name value set)

/-- All of some variables are set to text. -/
def Covers (values : Variables) (names : List String) : Prop :=
  ∀ name ∈ names, (values.lookup? name).isSome = true

theorem Extends.covers {names : List String} (grows : values.Extends after)
    (covers : values.Covers names) : after.Covers names := by
  intro name member
  obtain ⟨value, set⟩ := Option.isSome_iff_exists.mp (covers name member)
  rw [grows name value set]
  rfl

/-- One assignment of a variable file. -/
def settle (values : Variables) (name value : String) : Variables :=
  if (values.lookup? name).isNone then values.set name (some value) else values

theorem settle_of_isSome (set : (values.lookup? name).isSome = true) (value : String) :
    values.settle name value = values := by
  rw [settle, Option.isNone_eq_false_iff.mpr set]
  rfl

theorem extends_settle (values : Variables) (name value : String) :
    values.Extends (values.settle name value) := by
  intro other held set
  unfold settle
  split
  · rename_i unset
    have different : other ≠ name := by
      rintro rfl
      rw [set] at unset
      contradiction
    rw [lookup?_set, if_neg different, set]
  · exact set

theorem isSome_lookup?_settle (values : Variables) (name value : String) :
    ((values.settle name value).lookup? name).isSome = true := by
  unfold settle
  split
  · rw [lookup?_set, if_pos rfl]
    rfl
  · rename_i set
    exact Option.isSome_iff_ne_none.mpr (by simpa using set)

end Variables

/-- The variables that the lines of a file assign, up to the first malformed one. -/
def VariableFile.assignedNames : List (Option String) → List String
  | [] => []
  | none :: _ => []
  | some line :: rest =>
      match VariableFile.parseLine line.toList with
      | none => []
      | some none => assignedNames rest
      | some (some assignment) => assignment.name :: assignedNames rest

namespace Variables

open VariableFile

variable {values : Variables}

theorem extends_assigned (values : Variables) (earlier : List (String × String))
    (lines : List (Option String)) : values.Extends (values.assigned earlier lines) := by
  induction values, earlier, lines using assigned.induct with
  | case1 => exact .refl _
  | case2 => exact .refl _
  | case3 values earlier line rest malformed =>
      rw [assigned, malformed]
      exact .refl _
  | case4 values earlier line rest blank ih =>
      rw [assigned, blank]
      exact ih
  | case5 values earlier line rest assignment parsed value next ih =>
      rw [assigned, parsed]
      exact (values.extends_settle assignment.name value).trans ih

theorem covers_assigned (values : Variables) (earlier : List (String × String))
    (lines : List (Option String)) :
    (values.assigned earlier lines).Covers (assignedNames lines) := by
  induction values, earlier, lines using assigned.induct with
  | case1 => exact fun _ => nofun
  | case2 => exact fun _ => nofun
  | case3 values earlier line rest malformed =>
      rw [assignedNames, malformed]
      exact fun _ => nofun
  | case4 values earlier line rest blank ih =>
      rw [assigned, assignedNames, blank]
      exact ih
  | case5 values earlier line rest assignment parsed value next ih =>
      rw [assigned, assignedNames, parsed]
      intro name member
      rcases List.mem_cons.mp member with rfl | later
      · have settled : next.Covers [assignment.name] :=
          List.forall_mem_singleton.mpr (values.isSome_lookup?_settle assignment.name value)
        exact (next.extends_assigned _ rest).covers settled _ List.mem_cons_self
      · exact ih name later

theorem assigned_of_covers {lines : List (Option String)}
    (covers : values.Covers (assignedNames lines)) (earlier : List (String × String)) :
    values.assigned earlier lines = values := by
  induction values, earlier, lines using assigned.induct with
  | case1 => rfl
  | case2 => rfl
  | case3 values earlier line rest malformed => rw [assigned, malformed]
  | case4 values earlier line rest blank ih =>
      rw [assignedNames, blank] at covers
      rw [assigned, blank]
      exact ih covers
  | case5 values earlier line rest assignment parsed value next ih =>
      rw [assignedNames, parsed] at covers
      have same : next = values :=
        settle_of_isSome (covers assignment.name List.mem_cons_self) value
      have later : next.Covers (assignedNames rest) := by
        rw [same]
        exact fun name member => covers name (List.mem_cons_of_mem _ member)
      rw [assigned, parsed]
      exact (ih later).trans same

/-- What earlier lines of the file held does not matter where nothing is left to be set. -/
theorem assigned_assigned (values : Variables) (earlier others : List (String × String))
    (lines : List (Option String)) :
    (values.assigned earlier lines).assigned others lines = values.assigned earlier lines :=
  assigned_of_covers (values.covers_assigned earlier lines) others

end Variables

namespace Session

variable {session after : Session}

theorem extends_loadedVariables (session : Session) :
    session.environment.Extends session.loadedVariables := by
  unfold loadedVariables
  cases session.variableFile? with
  | none => exact .refl _
  | some path =>
      dsimp only
      cases session.disk.read session.directory path with
      | error error => exact .refl _
      | ok content => exact Variables.extends_assigned _ _ _

theorem extends_variablesAfter (session : Session) (config : Option Path) :
    session.environment.Extends (session.variablesAfter config) := by
  unfold variablesAfter
  cases session.configFile config with
  | error failure => exact .refl _
  | ok path => exact session.extends_loadedVariables

/-- The variable file is found again, and has nothing more to set. -/
theorem loadedVariables_withVariables (session : Session) :
    session.withVariables.loadedVariables = session.loadedVariables := by
  have found : session.withVariables.variableFile? = session.variableFile? := rfl
  rw [loadedVariables, found]
  unfold withVariables loadedVariables
  cases session.variableFile? with
  | none => rfl
  | some path =>
      dsimp only
      cases session.disk.read session.directory path with
      | error error => rfl
      | ok content => exact Variables.assigned_assigned _ _ _ _

theorem withVariables_withVariables (session : Session) :
    session.withVariables.withVariables = session.withVariables := by
  rw [withVariables, loadedVariables_withVariables]
  rfl

theorem loadedFrom_withVariables (session : Session) (path : Path) :
    session.withVariables.loadedFrom path = session.loadedFrom path := by
  have same : session.withVariables.readText path = session.readText path := rfl
  rw [loadedFrom, loadedFrom, same, withVariables_withVariables]

theorem loaded_afterLoading (session : Session) (config : Option Path) :
    (session.afterLoading config).loaded config = session.loaded config := by
  have found : (session.afterLoading config).configFile config = session.configFile config := by
    cases config <;> rfl
  rw [loaded, loaded, found]
  unfold afterLoading variablesAfter
  cases session.configFile config with
  | error failure => rfl
  | ok path => exact session.loadedFrom_withVariables path

theorem afterLoading_afterLoading (session : Session) (config : Option Path) :
    (session.afterLoading config).afterLoading config = session.afterLoading config := by
  have found : (session.afterLoading config).configFile config = session.configFile config := by
    cases config <;> rfl
  rw [afterLoading, variablesAfter, found]
  unfold afterLoading variablesAfter
  cases session.configFile config with
  | error failure => rfl
  | ok path => exact session.withVariables_withVariables

/-- Loading changes no file and no variable that is set to text. Once it is done, whether it
succeeded or failed, loading again has the same result and changes nothing but the log. -/
theorem loadConfig_again (session : Session) (config : Option Path) :
    let first := session.outcome (loadConfig config)
    first.2.disk = session.disk ∧
      first.2.directory = session.directory ∧
      first.2.output = session.output ∧
      session.environment.Extends first.2.environment ∧
      ∃ events, first.2.outcome (loadConfig config) = (first.1, { first.2 with events }) := by
  obtain ⟨events, loads⟩ := session.outcome_loadConfig config
  obtain ⟨again, reloads⟩ :=
    Session.outcome_loadConfig { session.afterLoading config with events } config
  have result : Session.loaded { session.afterLoading config with events } config =
      session.loaded config := session.loaded_afterLoading config
  have unchanged : Session.afterLoading { session.afterLoading config with events } config =
      { session.afterLoading config with events } :=
    congrArg (fun done : Session => { done with events })
      (session.afterLoading_afterLoading config)
  rw [loads]
  refine ⟨rfl, rfl, rfl, session.extends_variablesAfter config, again, ?_⟩
  rw [reloads, result, unchanged]

end Session

end SealedEnum
