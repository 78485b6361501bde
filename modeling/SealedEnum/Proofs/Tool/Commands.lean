import SealedEnum.Proofs.Config.Loading
import SealedEnum.Proofs.Config.Substitution
import SealedEnum.Proofs.Generation.Repetition
import SealedEnum.Proofs.Toml.Reading
import SealedEnum.Tool

namespace SealedEnum

open SealedEnum.Text

/-! What each command results in, and the session it leaves behind. -/

namespace Session

theorem outcome_announceConfig (session : Session) (config : Option Path) :
    ∃ events, session.outcome (announceConfig config) =
      (session.loaded config, { session.afterLoading config with events }) := by
  obtain ⟨loading, loads⟩ := outcome_loadConfig session config
  have attempts : session.outcome (Run.attempt (loadConfig config)) =
      (.ok (session.loaded config), { session.afterLoading config with events := loading }) := by
    change Prod.map Except.ok id (session.outcome (loadConfig config)) = _
    rw [loads]
    rfl
  unfold announceConfig
  rw [outcome_bind _ attempts]
  cases session.loaded config <;> exact ⟨_, rfl⟩

theorem outcome_configured {α : Type} (session : Session) (config : Option Path)
    (next : List Spec → Run (StateM Session) α) :
    ∃ events, session.outcome (announceConfig config >>= fun loaded => loaded.resolve >>= next) =
      match session.configured config with
      | .ok specs => Session.outcome { session.afterLoading config with events } (next specs)
      | .error failure => (.error failure, { session.afterLoading config with events }) := by
  obtain ⟨events, announces⟩ := outcome_announceConfig session config
  refine ⟨events, ?_⟩
  rw [outcome_bind _ announces, configured]
  cases session.loaded config with
  | error failure => rfl
  | ok loaded =>
      dsimp only [Except.bind]
      rw [outcome_bind _ (outcome_resolve _ loaded)]
      cases loaded.resolved <;> rfl

end Session

/-- The text a file is printed as. -/
def RenderedFile.printed (file : RenderedFile) : String :=
  s!"// ==== {file.path.text} ====\n{file.content}"

def printed (files : List RenderedFile) : String :=
  String.join (files.map RenderedFile.printed)

/-- The text that shows summaries. -/
def SummaryFormat.display (format : SummaryFormat) (summaries : List Summary) : String :=
  match format with
  | .pretty => Summary.overview summaries
  | .json => Summary.document summaries

namespace Session

theorem run_areText (session : Session) (paths : List Path) :
    (Host.areText paths : StateM Session Bool).run session =
      (paths.all session.isText, session) := by
  induction paths with
  | nil => rfl
  | cons path rest ih =>
      have asks : (Host.isText (m := StateM Session) path).run session =
          (session.isText path, session) := rfl
      rw [Host.areText, run_bind_of_run asks, List.all_cons]
      cases session.isText path with
      | true => exact ih
      | false => rfl

/-- What shows summaries in a session, where paths need not be text. -/
def shown (session : Session) (format : SummaryFormat) (summaries : List Summary) :
    Except Failure String :=
  match format with
  | .pretty => .ok (format.display summaries)
  | .json =>
      if (summaries.map Summary.destination).all session.isText then
        .ok (format.display summaries)
      else .error .json

theorem outcome_printSummaries (session : Session) (summaries : List Summary)
    (format : SummaryFormat) :
    session.outcome (printSummaries summaries format) =
      match session.shown format summaries with
      | .ok text => (.ok (), { session with output := session.output ++ text })
      | .error failure => (.error failure, session) := by
  cases format with
  | pretty => rfl
  | json =>
      have asks := outcome_lift (run_areText session (summaries.map Summary.destination))
      unfold printSummaries shown
      rw [outcome_bind_ok asks]
      dsimp only
      split <;> rfl

theorem outcome_runInspect (session : Session) (config : Option Path) (format : SummaryFormat) :
    ∃ events, session.outcome (runInspect config format) =
      match ((session.configured config).bind Summary.ofSpecs).bind (session.shown format) with
      | .error failure => (.error failure, { session.afterLoading config with events })
      | .ok text =>
          (.ok (), { session.afterLoading config with
            events, output := session.output ++ text }) := by
  refine (outcome_configured session config _).imp fun events begins => begins.trans ?_
  cases session.configured config with
  | error failure => rfl
  | ok specs =>
      dsimp only [Except.bind]
      rw [outcome_bind _ (outcome_ofExcept _ (Summary.ofSpecs specs))]
      cases Summary.ofSpecs specs with
      | error failure => rfl
      | ok summaries =>
          -- Loading keeps the name that stands for names that are no text.
          have same : Session.shown { session.afterLoading config with events } format summaries =
            session.shown format summaries := rfl
          dsimp only
          rw [outcome_printSummaries, same]
          cases session.shown format summaries <;> rfl

theorem run_printAll (session : Session) (files : List RenderedFile) :
    (printAll files : StateM Session Unit).run session =
      ((), { session with output := session.output ++ printed files }) := by
  induction files generalizing session with
  | nil =>
      rw [printed, List.map_nil, String.join_nil, String.append_empty]
      rfl
  | cons file rest ih =>
      rw [printed, List.map_cons, String.join_cons, ← String.append_assoc]
      exact (run_bind_of_run rfl _).trans (ih _)

/-- Reports on some items come in their order. -/
theorem run_forM_of_logs {α : Type} {report : α → StateM Session Unit} {event : α → Event}
    (logs : ∀ item session, (report item).run session =
      ((), { session with events := session.events ++ [event item] }))
    (session : Session) (items : List α) :
    (items.forM report).run session =
      ((), { session with events := session.events ++ items.map event }) := by
  induction items generalizing session with
  | nil =>
      rw [List.map_nil, List.append_nil]
      rfl
  | cons item rest ih =>
      rw [List.map_cons, List.append_cons]
      exact (run_bind_of_run (logs item session) _).trans (ih _)

theorem run_forM_of_reports {α : Type} {report : α → StateM Session Unit}
    (reports : ∀ item, ∃ event, ∀ session, (report item).run session =
      ((), { session with events := session.events ++ [event] }))
    (session : Session) (items : List α) :
    ∃ events, (items.forM report).run session = ((), { session with events }) := by
  choose event logs using reports
  exact ⟨_, run_forM_of_logs logs session items⟩

/-- The specifications that a generation is about. -/
def selected (session : Session) (config : Option Path) (names : List String) :
    Except Failure (List Spec) :=
  (session.configured config).bind (selectOnly names)

theorem outcome_runGenerate (session : Session) (config : Option Path)
    (options : GenerateOptions) :
    ∃ events, session.outcome (runGenerate config options) =
      match session.selected config options.selected with
      | .ok specs =>
          Session.outcome { session.afterLoading config with events } (runSelected options specs)
      | .error failure => (.error failure, { session.afterLoading config with events }) := by
  obtain ⟨started, starts⟩ := outcome_inform session "Starting Enumerator code generation"
  refine (outcome_configured { session with events := started } config _).imp
    fun events begins => ((outcome_bind _ starts).trans begins).trans ?_
  have same : Session.configured { session with events := started } config =
    session.configured config := rfl
  rw [same, selected]
  cases session.configured config with
  | error failure => rfl
  | ok specs =>
      dsimp only [Except.bind]
      rw [outcome_bind _ (outcome_ofExcept _ (selectOnly options.selected specs))]
      cases selectOnly options.selected specs <;> rfl

theorem outcome_runSelected_dryRun (session : Session) (specs : List Spec)
    {options : GenerateOptions} (dry : options.dryRun = true) :
    session.outcome (runSelected options specs) =
      match specs.mapM session.rendering with
      | .ok files => (.ok (), { session with output := session.output ++ printed files })
      | .error failure => (.error failure, session) := by
  unfold runSelected
  rw [if_pos dry, outcome_bind _ (outcome_renderAll session specs)]
  cases specs.mapM session.rendering with
  | error failure => rfl
  | ok files => exact outcome_lift (run_printAll session files)

/-- The first file that does not hold what it should makes a check fail. -/
def freshness (files : List CheckedFile) : Except Failure Unit :=
  match files.find? fun file => file.status ≠ .upToDate with
  | some file => .error (.outOfDate file.path)
  | none => .ok ()

theorem outcome_reportChecks (session : Session) (files : List CheckedFile) :
    ∃ events, session.outcome (reportChecks files) =
      (freshness files, { session with events }) := by
  have reported : ∀ file, ∃ event, ∀ session : Session,
      (reportChecked file : StateM Session Unit).run session =
        ((), { session with events := session.events ++ [event] }) := by
    intro file
    unfold reportChecked
    split <;> exact ⟨_, fun _ => rfl⟩
  obtain ⟨reporting, reports⟩ := run_forM_of_reports reported session files
  have begun : session.outcome (reportChecks files) = _ := outcome_bind _ (outcome_lift reports)
  rw [begun, freshness]
  cases files.find? fun file => file.status ≠ .upToDate <;> exact ⟨_, rfl⟩

theorem outcome_runSelected_check (session : Session) (specs : List Spec)
    {options : GenerateOptions} (wet : options.dryRun = false) (asked : options.check = true) :
    ∃ events, session.outcome (runSelected options specs) =
      ((session.checked specs).bind freshness, { session with events }) := by
  obtain ⟨checking, checks⟩ := outcome_checkAll session specs
  unfold runSelected
  rw [if_neg (by simp [wet]), if_pos asked, outcome_bind _ checks]
  cases session.checked specs with
  | error failure => exact ⟨_, rfl⟩
  | ok files => exact outcome_reportChecks { session with events := checking } files

theorem outcome_runSelected_write (session : Session) (specs : List Spec)
    {options : GenerateOptions} (wet : options.dryRun = false)
    (unasked : options.check = false) :
    ∃ events, session.outcome (runSelected options specs) =
      ((session.outcome (generateAll specs)).1.map fun _ => (),
        { (session.outcome (generateAll specs)).2 with events }) := by
  have generates : session.outcome (generateAll specs) =
    ((session.outcome (generateAll specs)).1, (session.outcome (generateAll specs)).2) := rfl
  unfold runSelected
  rw [if_neg (by simp [wet]), if_neg (by simp [unasked]), outcome_bind _ generates]
  cases (session.outcome (generateAll specs)).1 with
  | error failure => exact ⟨_, rfl⟩
  | ok report =>
      have reported : ∀ file, ∃ event, ∀ session : Session,
          (reportGenerated file : StateM Session Unit).run session =
            ((), { session with events := session.events ++ [event] }) :=
        fun _ => ⟨_, fun _ => rfl⟩
      obtain ⟨reporting, reports⟩ := run_forM_of_reports reported _ report.files
      exact ⟨_, outcome_bind _ (outcome_lift reports)⟩

theorem outcome_runEmit_dryRun (session : Session) {options : EmitOptions}
    (dry : options.dryRun = true) :
    session.outcome (runEmit options) =
      match (session.outcome (renderSpec options.spec)).1 with
      | .ok text => (.ok (), { session with output := session.output ++ text })
      | .error failure => (.error failure, session) := by
  unfold runEmit
  rw [if_pos dry, outcome_bind _ (outcome_renderSpec session options.spec), outcome_renderSpec]
  cases session.rendering options.spec <;> rfl

theorem outcome_runEmit_write (session : Session) {options : EmitOptions}
    (wet : options.dryRun = false) :
    ∃ events, session.outcome (runEmit options) =
      ((session.outcome (generate options.spec)).1.map fun _ => (),
        { (session.outcome (generate options.spec)).2 with events }) := by
  have generates : session.outcome (generate options.spec) =
    ((session.outcome (generate options.spec)).1,
      (session.outcome (generate options.spec)).2) := rfl
  unfold runEmit
  rw [if_neg (by simp [wet]), outcome_bind _ generates]
  cases (session.outcome (generate options.spec)).1 <;> exact ⟨_, rfl⟩

def violationComplaint : Nat × Spec × Violation → Event
  | (_, spec, violation) => ⟨.error, s!"  {spec.typeName}: {violation.message}", []⟩

def licenseComplaint? (session : Session) (spec : Spec) : Option Event :=
  match session.license spec.licenseFile with
  | .ok _ => none
  | .error failure => some ⟨.error, s!"  {spec.typeName}: {failure.message}", []⟩

/-- What a validation finds fault with: first the specifications, then their licenses. -/
def complaints (session : Session) (specs : List Spec) : List Event :=
  (Spec.violations specs).map violationComplaint ++ specs.filterMap session.licenseComplaint?

theorem run_reportLicenses (session : Session) (specs : List Spec) :
    (reportLicenses specs : StateM Session Nat).run session =
      ((specs.filterMap session.licenseComplaint?).length,
        { session with
          events := session.events ++ specs.filterMap session.licenseComplaint? }) := by
  induction specs generalizing session with
  | nil =>
      rw [List.filterMap_nil, List.append_nil]
      rfl
  | cons spec rest ih =>
      have loads : (loadLicense spec.licenseFile : Run (StateM Session) (Option String)).run.run
          session = (session.license spec.licenseFile, session) :=
        outcome_loadLicense session spec.licenseFile
      rw [reportLicenses, run_bind_of_run loads, List.filterMap_cons, licenseComplaint?]
      cases session.license spec.licenseFile with
      | ok license => exact ih session
      | error failure =>
          dsimp only
          rw [List.append_cons, List.length_cons]
          exact (run_bind_of_run rfl _).trans (run_bind_of_run (ih _) _)

def validation (session : Session) (specs : List Spec) : Except Failure Unit :=
  let faults := (session.complaints specs).length
  if faults = 0 then .ok ()
  else .error (.config s!"{faults} validation errors across {specs.length} enums")

def verdict (session : Session) (specs : List Spec) : Event :=
  let faults := (session.complaints specs).length
  if faults = 0 then ⟨.information, "Validation passed", []⟩
  else ⟨.error, s!"Validation failed with {faults} errors", []⟩

theorem outcome_reportFaults (session : Session) (specs : List Spec) :
    session.outcome (reportFaults specs) =
      (session.validation specs, { session with
        events := session.events ++ session.complaints specs ++ [session.verdict specs] }) := by
  have complains : ∀ violated (session : Session),
      (reportViolation violated : StateM Session Unit).run session =
        ((), { session with events := session.events ++ [violationComplaint violated] }) :=
    fun _ _ => rfl
  have reports := outcome_lift (run_forM_of_logs complains session (Spec.violations specs))
  have counts := outcome_lift (run_reportLicenses { session with
    events := session.events ++ (Spec.violations specs).map violationComplaint } specs)
  have begun : session.outcome (reportFaults specs) = _ :=
    (outcome_bind _ reports).trans (outcome_bind _ counts)
  have faults : (session.complaints specs).length =
      (Spec.violations specs).length + (specs.filterMap session.licenseComplaint?).length := by
    rw [complaints, List.length_append, List.length_map]
  -- Complaints only go to the log, so that the licenses are those of the session as it was.
  have same : Session.licenseComplaint? { session with
      events := session.events ++ (Spec.violations specs).map violationComplaint } =
    session.licenseComplaint? := rfl
  rw [begun, validation, verdict, faults, complaints, ← List.append_assoc, same]
  dsimp only
  by_cases none : (Spec.violations specs).length +
      (specs.filterMap session.licenseComplaint?).length = 0
  · simp only [if_pos none]
    rfl
  · simp only [if_neg none]
    rfl

theorem outcome_validateLoaded (session : Session) (loaded : LoadedConfig) :
    ∃ events, session.outcome (validateLoaded loaded) =
      match loaded.resolved with
      | .error failure => (.error failure, { session with events })
      | .ok specs =>
          (session.validation specs, { session with
            events := events ++ session.complaints specs ++ [session.verdict specs] }) := by
  obtain ⟨found, finds⟩ := outcome_inform session "  Configuration file: OK"
  have begun : session.outcome (validateLoaded loaded) = _ :=
    (outcome_bind _ finds).trans (outcome_bind _ (outcome_resolve _ loaded))
  rw [begun]
  cases loaded.resolved with
  | error failure => exact ⟨_, rfl⟩
  | ok specs =>
      obtain ⟨events, counts⟩ := outcome_inform { session with events := found } _
      exact ⟨events, (outcome_bind _ counts).trans (outcome_reportFaults _ specs)⟩

theorem outcome_runValidate (session : Session) (config : Option Path) :
    ∃ events, session.outcome (runValidate config) =
      match session.configured config with
      | .error failure => (.error failure, { session.afterLoading config with events })
      | .ok specs =>
          (session.validation specs, { session.afterLoading config with
            events := events ++ session.complaints specs ++ [session.verdict specs] }) := by
  obtain ⟨started, starts⟩ := outcome_inform session "Validating Enumerator configuration"
  obtain ⟨announced, announces⟩ :=
    outcome_announceConfig { session with events := started } config
  have begun : session.outcome (runValidate config) = _ :=
    (outcome_bind _ starts).trans (outcome_bind _ announces)
  have same : Session.loaded { session with events := started } config =
    session.loaded config := rfl
  rw [begun, same, configured]
  cases session.loaded config with
  | error failure => exact ⟨_, rfl⟩
  | ok loaded =>
      exact outcome_validateLoaded { session.afterLoading config with events := announced } loaded

end Session

/-! Configuration files that commands are run on. -/

def paletteConfig (values : List String) : Config where
  enums := [{ typeName := "Color", package := "colors", values, destination := some "color.go" }]

theorem expand_paletteConfig (values : List String) (lookup : String → Option String) :
    (paletteConfig values).expand lookup = .ok (paletteConfig values) := by
  have directory : Substitution.expand lookup "." = .ok "." :=
    Substitution.expand_of_not_mem (by decide)
  have destination : Substitution.expand lookup "color.go" = .ok "color.go" :=
    Substitution.expand_of_not_mem (by decide)
  simp [paletteConfig, Config.expand, GeneralSettings.expand, EnumSettings.expandAll,
    EnumSettings.expand, Substitution.expand?, directory, destination, bind, Except.bind, pure,
    Except.pure, Except.map]

theorem loadConfig_paletteConfig {session : Session} {path : Path} {text : String}
    {values : List String}
    (reads : session.disk.read session.directory path = .ok text.toUTF8)
    (parsed : Config.ofToml? text = some (paletteConfig values)) :
    (session.outcome (loadConfig (some path))).1 = .ok ⟨path, paletteConfig values⟩ := by
  obtain ⟨events, loads⟩ := session.outcome_loadConfig (some path)
  rw [loads]
  change session.loadedFrom path = _
  rw [Session.loadedFrom, Session.readText, reads]
  dsimp only
  rw [fromUTF8?_toUTF8]
  dsimp only
  rw [Session.parsed, parsed]
  dsimp only
  rw [expand_paletteConfig]
  rfl

/-- A single value is read as it stands. -/
theorem ofToml?_paletteText {value : String} (plain : ∀ c ∈ value.toList, Toml.isPlain c = true)
    (named : value.toList ≠ []) :
    Config.ofToml? (Toml.paletteText ("\"" ++ value ++ "\"")) = some (paletteConfig [value]) := by
  have reads := Toml.value_of_plain plain named ['\n'] 79
  rw [String.ofList_toList] at reads
  have characters : ("\"" ++ value ++ "\"" ++ "]\n").toList =
      '"' :: (value.toList ++ '"' :: ']' :: ['\n']) := by
    simp only [String.toList_append, List.append_assoc]
    rfl
  rw [← characters] at reads
  rw [Config.ofToml?, Toml.document?_paletteText reads]
  rfl

def colorText : String :=
  Toml.paletteText "\"Red\", \"Green\""

def colorConfig : Config :=
  paletteConfig ["Red", "Green"]

theorem loadConfig_colorText {session : Session} {path : Path}
    (reads : session.disk.read session.directory path = .ok colorText.toUTF8) :
    (session.outcome (loadConfig (some path))).1 = .ok ⟨path, colorConfig⟩ :=
  loadConfig_paletteConfig reads rfl

end SealedEnum
