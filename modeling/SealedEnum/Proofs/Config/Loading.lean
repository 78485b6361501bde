import SealedEnum.Config.Load
import SealedEnum.Proofs.Host.Outcome

namespace SealedEnum

/-! Loading a configuration sets variables and writes to the log. What it results in depends on the
disk, the working directory and the variables alone. -/

/-- The variables after some lines of a variable file. -/
def Variables.assigned (values : Variables) :
    List (String × String) → List (Option String) → Variables
  | _, [] => values
  | _, none :: _ => values
  | earlier, some line :: rest =>
      match VariableFile.parseLine line.toList with
      | none => values
      | some none => values.assigned earlier rest
      | some (some assignment) =>
          let value := assignment.text values.lookup? earlier
          let next :=
            if (values.lookup? assignment.name).isNone then
              values.set assignment.name (some value)
            else values
          next.assigned ((assignment.name, value) :: earlier) rest

namespace Session

variable {session : Session}

theorem run_applyLines (earlier : List (String × String)) (lines : List (Option String)) :
    (applyLines earlier lines : StateM Session Unit).run session =
      ((), { session with environment := session.environment.assigned earlier lines }) := by
  induction lines generalizing session earlier with
  | nil => rfl
  | cons line rest ih =>
      cases line with
      | none => rfl
      | some line =>
          rw [applyLines, Variables.assigned]
          cases VariableFile.parseLine line.toList with
          | none => rfl
          | some parsed =>
              cases parsed with
              | none => exact ih earlier
              | some assignment =>
                  have looks : (Host.lookupFor (m := StateM Session)
                      (assignment.name :: assignment.mentions)).run session =
                        (session.environment.lookup?, session) := rfl
                  dsimp only
                  rw [run_bind_of_run looks]
                  split
                  · exact (run_bind_of_run rfl _).trans (ih _)
                  · exact ih _

theorem run_findIn {isWanted : Path → StateM Session Bool} {wanted : Path → Bool}
    (tests : ∀ path, (isWanted path).run session = (wanted path, session)) (fileName : String)
    (directories : List Path) :
    (findIn isWanted fileName directories).run session =
      ((directories.map fun directory => directory.join ⟨fileName⟩).find? wanted, session) := by
  induction directories with
  | nil => rfl
  | cons directory above ih =>
      rw [findIn, List.map_cons, List.find?_cons, run_bind_of_run (tests _)]
      cases wanted (directory.join ⟨fileName⟩) with
      | true => rfl
      | false => exact ih

def kind? (session : Session) (path : Path) : Option FileKind :=
  (session.disk.entryAt session.directory path).toOption.map Entry.kind

/-- The nearest variable file, in a directory or above it. -/
def variableFileAbove? (session : Session) (start : Path) : Option Path :=
  (start.ancestors.map fun directory => directory.join ⟨variableFileName⟩).find?
    fun path => session.kind? path = some .file

/-- A working directory that is no more has nothing above it. -/
def variableFile? (session : Session) : Option Path :=
  match session.workingDirectory with
  | .error _ => none
  | .ok directory => session.variableFileAbove? directory

/-- The variables with those of the nearest variable file. -/
def loadedVariables (session : Session) : Variables :=
  match session.variableFile? with
  | none => session.environment
  | some path =>
      match session.disk.read session.directory path with
      | .error _ => session.environment
      | .ok content => session.environment.assigned [] (VariableFile.lines content)

theorem run_loadVariables (session : Session) :
    (loadVariables : StateM Session Unit).run session =
      ((), { session with environment := session.loadedVariables }) := by
  have here : (Host.workingDirectory (m := StateM Session)).run session =
      (session.workingDirectory, session) := rfl
  have tests : ∀ path, (Host.isFile (m := StateM Session) path).run session =
      (decide (session.kind? path = some .file), session) := fun _ => rfl
  rw [loadVariables, run_bind_of_run here, loadedVariables, variableFile?]
  cases session.workingDirectory with
  | error error => rfl
  | ok directory =>
      have finds : (findIn (m := StateM Session) Host.isFile variableFileName
          directory.ancestors).run session = (session.variableFileAbove? directory, session) :=
        run_findIn tests variableFileName _
      dsimp only
      rw [run_bind_of_run finds]
      cases session.variableFileAbove? directory with
      | none => rfl
      | some path =>
          have reads : (Host.read (m := StateM Session) path).run session =
              (session.disk.read session.directory path, session) := rfl
          dsimp only
          rw [run_bind_of_run reads]
          cases session.disk.read session.directory path with
          | error error => rfl
          | ok content => exact run_applyLines [] (VariableFile.lines content)

/-- A configuration's text, read with the variables as they are. -/
def parsed (session : Session) (text : String) : Except Failure Config :=
  match Config.ofToml? text with
  | none => .error .toml
  | some config => (config.expand session.environment.lookup?).mapError .variableNotSet

theorem outcome_parseConfig (session : Session) (text : String) :
    ∃ events, session.outcome (parseConfig text) =
      (session.parsed text, { session with events }) := by
  unfold parseConfig parsed
  cases Config.ofToml? text with
  | none => exact ⟨_, rfl⟩
  | some config =>
      have looks : session.outcome (Host.lookupFor config.mentions) =
          (.ok session.environment.lookup?, session) := rfl
      dsimp only
      rw [outcome_bind_ok looks]
      cases config.expand session.environment.lookup? with
      | ok expanded => exact ⟨session.events, rfl⟩
      | error name => exact ⟨_, rfl⟩

def withVariables (session : Session) : Session :=
  { session with environment := session.loadedVariables }

def loadedFrom (session : Session) (path : Path) : Except Failure LoadedConfig :=
  match session.readText path with
  | .error error => .error (.io error)
  | .ok text => (session.withVariables.parsed text).map fun config => ⟨path, config⟩

theorem outcome_loadConfigFrom (session : Session) (path : Path) :
    ∃ events, session.outcome (loadConfigFrom path) =
      (session.loadedFrom path, { session.withVariables with events }) := by
  obtain ⟨started, starts⟩ := outcome_inform session "Loading Enumerator configuration"
  have loads := outcome_lift (run_loadVariables { session with events := started })
  have reads := outcome_readText { session.withVariables with events := started } path
  have begun : session.outcome (loadConfigFrom path) = _ :=
    (outcome_bind _ starts).trans ((outcome_bind _ loads).trans (outcome_bind _ reads))
  have same : Session.readText { session.withVariables with events := started } path =
    session.readText path := rfl
  rw [begun, same, loadedFrom]
  cases session.readText path with
  | error error => exact ⟨_, rfl⟩
  | ok text =>
      obtain ⟨parsing, parses⟩ :=
        outcome_parseConfig { session.withVariables with events := started } text
      have same : Session.parsed { session.withVariables with events := started } text =
        session.withVariables.parsed text := rfl
      dsimp only
      rw [outcome_bind _ parses, same]
      cases session.withVariables.parsed text with
      | error failure => exact ⟨_, rfl⟩
      | ok config => exact ⟨_, rfl⟩

def unfoundConfig : Failure :=
  .config s!"{configFileName} not found in current or any parent directory."

/-- The nearest configuration file, in a directory or above it. -/
def configAbove? (session : Session) (start : Path) : Option Path :=
  (start.ancestors.map fun directory => directory.join ⟨configFileName⟩).find?
    fun path => (session.kind? path).isSome

def foundConfig (session : Session) (start : Path) : Except Failure Path :=
  match session.configAbove? start with
  | some path => .ok path
  | none => .error unfoundConfig

theorem outcome_findConfigFrom (session : Session) (start : Path) :
    ∃ events, session.outcome (findConfigFrom start) =
      (session.foundConfig start, { session with events }) := by
  have tests : ∀ path, (Host.exists? (m := StateM Session) path).run session =
      ((session.kind? path).isSome, session) := fun _ => rfl
  have finds : session.outcome (findIn (m := StateM Session) Host.exists? configFileName
      start.ancestors : StateM Session (Option Path)) =
        (.ok (session.configAbove? start), session) :=
    outcome_lift (run_findIn tests configFileName _)
  unfold findConfigFrom foundConfig
  rw [outcome_bind _ finds]
  cases session.configAbove? start with
  | some path => exact ⟨session.events, rfl⟩
  | none => exact ⟨_, rfl⟩

/-- The configuration file that is asked for, or else the nearest one. -/
def configFile (session : Session) : Option Path → Except Failure Path
  | some path => .ok path
  | none =>
      match session.workingDirectory with
      | .error error => .error (.io error)
      | .ok directory => session.foundConfig directory

def loaded (session : Session) (config : Option Path) : Except Failure LoadedConfig :=
  (session.configFile config).bind session.loadedFrom

/-- No variable file is read where there is no configuration file. -/
def variablesAfter (session : Session) (config : Option Path) : Variables :=
  match session.configFile config with
  | .ok _ => session.loadedVariables
  | .error _ => session.environment

def afterLoading (session : Session) (config : Option Path) : Session :=
  { session with environment := session.variablesAfter config }

theorem outcome_loadConfig (session : Session) (config : Option Path) :
    ∃ events, session.outcome (loadConfig config) =
      (session.loaded config, { session.afterLoading config with events }) := by
  cases config with
  | some path => exact outcome_loadConfigFrom session path
  | none =>
      have here : session.outcome Host.workingDirectory =
        (.ok session.workingDirectory, session) := rfl
      unfold loadConfig loaded afterLoading variablesAfter configFile
      rw [outcome_bind_ok here]
      cases session.workingDirectory with
      | error error => exact ⟨_, rfl⟩
      | ok directory =>
          obtain ⟨searching, finds⟩ := outcome_findConfigFrom session directory
          dsimp only
          rw [outcome_bind _ finds]
          cases session.foundConfig directory with
          | error failure => exact ⟨_, rfl⟩
          | ok path =>
              obtain ⟨informed, tells⟩ := outcome_inform { session with events := searching } _
              dsimp only
              rw [outcome_bind _ tells]
              exact outcome_loadConfigFrom { session with events := informed } path

end Session

def LoadedConfig.resolved (loaded : LoadedConfig) : Except Failure (List Spec) :=
  loaded.specs.mapError fun shared =>
    .sharedDestination shared.path shared.first shared.second

namespace Session

theorem outcome_resolve (session : Session) (loaded : LoadedConfig) :
    session.outcome loaded.resolve = (loaded.resolved, session) := by
  unfold LoadedConfig.resolve LoadedConfig.resolved
  cases loaded.specs <;> rfl

/-- The specifications a session's configuration asks for. -/
def configured (session : Session) (config : Option Path) : Except Failure (List Spec) :=
  (session.loaded config).bind LoadedConfig.resolved

theorem configured_eq_ok_iff {session : Session} {config : Option Path} {specs : List Spec} :
    session.configured config = .ok specs ↔
      ∃ loaded, (session.outcome (loadConfig config)).1 = .ok loaded ∧
        loaded.specs = .ok specs := by
  obtain ⟨events, loads⟩ := outcome_loadConfig session config
  rw [loads, configured]
  cases session.loaded config with
  | error failure => simp [Except.bind]
  | ok loaded =>
      simp only [Except.bind, Except.ok.injEq, exists_eq_left', LoadedConfig.resolved,
        mapError_eq_ok_iff]

end Session

end SealedEnum
