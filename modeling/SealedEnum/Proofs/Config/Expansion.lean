import SealedEnum.Proofs.Config.Loading
import SealedEnum.Proofs.Config.Substitution

namespace SealedEnum

/-! Of a configuration, the path settings are expanded and nothing else. The first of them that
cannot be is told. -/

/-- The settings that name files or directories, in the order in which they are expanded. -/
def EnumSettings.pathSettings (entry : EnumSettings) : List String :=
  entry.destination.toList ++ entry.licenseFile.toList

def GeneralSettings.pathSettings (settings : GeneralSettings) : List String :=
  settings.outputDirectory :: settings.licenseFile.toList

def Config.pathSettings (config : Config) : List String :=
  config.general.pathSettings ++ config.enums.flatMap EnumSettings.pathSettings

def EnumSettings.mapPaths (change : String → String) (entry : EnumSettings) : EnumSettings :=
  { entry with
    destination := entry.destination.map change
    licenseFile := entry.licenseFile.map change }

def GeneralSettings.mapPaths (change : String → String) (settings : GeneralSettings) :
    GeneralSettings where
  outputDirectory := change settings.outputDirectory
  licenseFile := settings.licenseFile.map change

/-- A configuration with other texts in its path settings. -/
def Config.mapPaths (change : String → String) (config : Config) : Config where
  general := config.general.mapPaths change
  enums := config.enums.map (EnumSettings.mapPaths change)

namespace Substitution

variable {lookup : String → Option String} {settings others : List String} {name : String}

/-- What a setting is replaced by, where it can be expanded. -/
def replacement (lookup : String → Option String) (setting : String) : String :=
  match expand lookup setting with
  | .ok text => text
  | .error _ => setting

/-- The variable that is missing in the first setting that cannot be expanded. -/
inductive FirstMissing (lookup : String → Option String) : List String → String → Prop where
  | here {setting name : String} (rest : List String)
      (fails : expand lookup setting = .error name) : FirstMissing lookup (setting :: rest) name
  | later {setting text name : String} {rest : List String}
      (expands : expand lookup setting = .ok text) (first : FirstMissing lookup rest name) :
      FirstMissing lookup (setting :: rest) name

theorem FirstMissing.append (first : FirstMissing lookup settings name) (others : List String) :
    FirstMissing lookup (settings ++ others) name := by
  induction first with
  | here rest fails => exact .here _ fails
  | later expands _ ih => exact .later expands ih

theorem FirstMissing.behind (first : FirstMissing lookup others name)
    (succeed : ∀ setting ∈ settings, ∃ text, expand lookup setting = .ok text) :
    FirstMissing lookup (settings ++ others) name := by
  induction settings with
  | nil => exact first
  | cons setting rest ih =>
      obtain ⟨⟨text, expands⟩, later⟩ := List.forall_mem_cons.mp succeed
      exact .later expands (ih later)

theorem FirstMissing.unique (first : FirstMissing lookup settings name) {other : String}
    (second : FirstMissing lookup settings other) : name = other := by
  induction first with
  | here rest fails =>
      cases second with
      | here _ again => exact Except.error.inj (fails.symm.trans again)
      | later expands _ => exact nomatch fails.symm.trans expands
  | later expands _ ih =>
      cases second with
      | here _ fails => exact nomatch fails.symm.trans expands
      | later _ second => exact ih second

theorem FirstMissing.exists_error (first : FirstMissing lookup settings name) :
    ∃ setting ∈ settings, expand lookup setting = .error name := by
  induction first with
  | here rest fails => exact ⟨_, List.mem_cons_self, fails⟩
  | later _ _ ih =>
      obtain ⟨setting, member, fails⟩ := ih
      exact ⟨setting, List.mem_cons_of_mem _ member, fails⟩

theorem exists_firstMissing_iff :
    (∃ name, FirstMissing lookup settings name) ↔
      ∃ setting ∈ settings, ∃ name, expand lookup setting = .error name := by
  constructor
  · rintro ⟨name, first⟩
    obtain ⟨setting, member, fails⟩ := first.exists_error
    exact ⟨setting, member, name, fails⟩
  · rintro ⟨failing, member, name, fails⟩
    induction settings with
    | nil => contradiction
    | cons setting rest ih =>
        cases expands : expand lookup setting with
        | error missing => exact ⟨missing, .here rest expands⟩
        | ok text =>
            rcases List.mem_cons.mp member with rfl | later
            · exact nomatch fails.symm.trans expands
            · obtain ⟨missing, first⟩ := ih later
              exact ⟨missing, .later expands first⟩

theorem expand_eq_replacement {setting text : String} (expands : expand lookup setting = .ok text) :
    replacement lookup setting = text := by
  rw [replacement, expands]

/-- A value made of some settings, all of them expanded, or the first failure among them. -/
inductive Expands {α : Type} (lookup : String → Option String) (settings : List String)
    (value : (String → String) → α) : Except String α → Prop where
  | expanded (succeed : ∀ setting ∈ settings, ∃ text, expand lookup setting = .ok text) :
      Expands lookup settings value (.ok (value (replacement lookup)))
  | missing {name : String} (first : FirstMissing lookup settings name) :
      Expands lookup settings value (.error name)

section Expands

variable {α β γ : Type} {left : Except String α} {right : Except String β}
  {leftValue : (String → String) → α} {rightValue : (String → String) → β}

theorem Expands.both (combine : α → β → γ) (first : Expands lookup settings leftValue left)
    (second : Expands lookup others rightValue right) :
    Expands lookup (settings ++ others)
      (fun change => combine (leftValue change) (rightValue change))
      (do
        let a ← left
        let b ← right
        return combine a b) := by
  cases first with
  | missing first => exact .missing (first.append others)
  | expanded succeed =>
      cases second with
      | missing second => exact .missing (second.behind succeed)
      | expanded later => exact .expanded (List.forall_mem_append.mpr ⟨succeed, later⟩)

theorem Expands.map (describe : α → β) (first : Expands lookup settings leftValue left) :
    Expands lookup settings (fun change => describe (leftValue change)) (left.map describe) := by
  cases first with
  | expanded succeed => exact .expanded succeed
  | missing first => exact .missing first

theorem expands_expand (lookup : String → Option String) (setting : String) :
    Expands lookup [setting] (fun change => change setting) (expand lookup setting) := by
  cases expands : expand lookup setting with
  | error name => exact .missing (.here [] expands)
  | ok text =>
      rw [← expand_eq_replacement expands]
      exact .expanded (by simp [expands])

theorem expands_expand? (lookup : String → Option String) (setting : Option String) :
    Expands lookup setting.toList (fun change => setting.map change) (expand? lookup setting) := by
  cases setting with
  | none => exact .expanded (by simp)
  | some text => exact (expands_expand lookup text).map some

theorem FirstMissing.not_succeeds (first : FirstMissing lookup settings name) :
    ¬ ∀ setting ∈ settings, ∃ text, expand lookup setting = .ok text := by
  intro succeed
  obtain ⟨setting, member, fails⟩ := first.exists_error
  obtain ⟨text, expands⟩ := succeed setting member
  rw [expands] at fails
  contradiction

theorem Expands.eq_error_iff (expands : Expands lookup settings leftValue left) :
    left = .error name ↔ FirstMissing lookup settings name := by
  cases expands with
  | expanded succeed =>
      constructor
      · intro same
        contradiction
      · intro first
        exact absurd succeed first.not_succeeds
  | missing found =>
      constructor
      · intro same
        rwa [← Except.error.inj same]
      · intro first
        rw [found.unique first]

theorem Expands.eq_ok_iff (expands : Expands lookup settings leftValue left)
    (congr : ∀ change other : String → String,
      (∀ setting ∈ settings, change setting = other setting) →
        leftValue change = leftValue other) {value : α} :
    left = .ok value ↔ ∃ change : String → String,
      (∀ setting ∈ settings, expand lookup setting = .ok (change setting)) ∧
        value = leftValue change := by
  cases expands with
  | missing first =>
      constructor
      · intro same
        contradiction
      · rintro ⟨change, succeed, -⟩
        exact absurd (fun setting member => ⟨_, succeed setting member⟩) first.not_succeeds
  | expanded succeed =>
      have replaced : ∀ setting ∈ settings,
          expand lookup setting = .ok (replacement lookup setting) := by
        intro setting member
        obtain ⟨text, expands⟩ := succeed setting member
        rw [expands, expand_eq_replacement expands]
      constructor
      · intro same
        exact ⟨_, replaced, (Except.ok.inj same).symm⟩
      · rintro ⟨change, expands, rfl⟩
        refine congrArg _ (congr _ _ fun setting member => ?_)
        exact expand_eq_replacement (expands setting member)

end Expands

end Substitution

open Substitution

theorem GeneralSettings.expands (lookup : String → Option String) (settings : GeneralSettings) :
    Expands lookup settings.pathSettings settings.mapPaths (settings.expand lookup) :=
  (expands_expand lookup settings.outputDirectory).both GeneralSettings.mk
    (expands_expand? lookup settings.licenseFile)

theorem EnumSettings.expands (lookup : String → Option String) (entry : EnumSettings) :
    Expands lookup entry.pathSettings entry.mapPaths (entry.expand lookup) :=
  (expands_expand? lookup entry.destination).both
    (fun destination licenseFile : Option String =>
      ({ entry with destination, licenseFile } : EnumSettings))
    (expands_expand? lookup entry.licenseFile)

theorem EnumSettings.expandAll_expands (lookup : String → Option String)
    (entries : List EnumSettings) :
    Expands lookup (entries.flatMap EnumSettings.pathSettings)
      (fun change => entries.map (EnumSettings.mapPaths change))
      (EnumSettings.expandAll lookup entries) := by
  induction entries with
  | nil => exact .expanded (by simp)
  | cons entry rest ih => exact (entry.expands lookup).both List.cons ih

theorem Config.expands (lookup : String → Option String) (config : Config) :
    Expands lookup config.pathSettings config.mapPaths (config.expand lookup) :=
  (config.general.expands lookup).both Config.mk
    (EnumSettings.expandAll_expands lookup config.enums)

theorem mem_pathSettings_of_entry {config : Config} {entry : EnumSettings} {setting : String}
    (member : entry ∈ config.enums) (own : setting ∈ entry.pathSettings) :
    setting ∈ config.pathSettings :=
  List.mem_append_right _ (List.mem_flatMap_of_mem member own)

theorem Config.mapPaths_congr {config : Config} {change other : String → String}
    (same : ∀ setting ∈ config.pathSettings, change setting = other setting) :
    config.mapPaths change = config.mapPaths other := by
  have optional : ∀ setting : Option String, (∀ text ∈ setting.toList, change text = other text) →
      setting.map change = setting.map other := by
    intro setting agrees
    cases setting with
    | none => rfl
    | some text => exact congrArg some (agrees text (by simp))
  have general : config.general.mapPaths change = config.general.mapPaths other := by
    have own : ∀ setting ∈ config.general.pathSettings, change setting = other setting :=
      fun setting member => same setting (List.mem_append_left _ member)
    rw [GeneralSettings.pathSettings, List.forall_mem_cons] at own
    rw [GeneralSettings.mapPaths, GeneralSettings.mapPaths, own.1, optional _ own.2]
  have enums : config.enums.map (EnumSettings.mapPaths change) =
      config.enums.map (EnumSettings.mapPaths other) := by
    refine List.map_congr_left fun entry member => ?_
    have own : ∀ setting ∈ entry.pathSettings, change setting = other setting :=
      fun setting inside => same setting (mem_pathSettings_of_entry member inside)
    rw [EnumSettings.pathSettings, List.forall_mem_append] at own
    rw [EnumSettings.mapPaths, EnumSettings.mapPaths, optional _ own.1, optional _ own.2]
  rw [Config.mapPaths, Config.mapPaths, general, enums]

/-- What a configuration becomes with its path settings expanded, and what is told where one of
them cannot be. -/
structure Config.ExpandsTo (lookup : String → Option String) (config : Config)
    (result : Except Failure Config) : Prop where
  ok_iff : ∀ expanded, result = .ok expanded ↔
    ∃ change : String → String,
      (∀ setting ∈ config.pathSettings,
        Substitution.expand lookup setting = .ok (change setting)) ∧
          expanded = config.mapPaths change
  error_iff : ∀ failure, result = .error failure ↔
    ∃ name, failure = .variableNotSet name ∧ FirstMissing lookup config.pathSettings name
  fails_iff : (∃ name, result = .error (.variableNotSet name)) ↔
    ∃ setting ∈ config.pathSettings, ∃ name, Substitution.expand lookup setting = .error name

theorem Config.expandsTo (lookup : String → Option String) (config : Config) :
    config.ExpandsTo lookup ((config.expand lookup).mapError .variableNotSet) where
  ok_iff := fun _ => mapError_eq_ok_iff.trans
    ((config.expands lookup).eq_ok_iff fun _ _ => Config.mapPaths_congr)
  error_iff := by
    intro failure
    simp only [mapError_eq_error_iff, (config.expands lookup).eq_error_iff]
    exact exists_congr fun _ => and_comm
  fails_iff := by
    rw [← exists_firstMissing_iff]
    simp only [mapError_eq_error_iff, (config.expands lookup).eq_error_iff,
      Failure.variableNotSet.injEq, exists_eq_right']

/-- Of a decoded configuration, exactly the path settings are replaced by what they expand to, and
the first of them that cannot be expanded is told. -/
theorem Session.parseConfig_expandsTo (session : Session) {text : String} {config : Config}
    (decoded : Config.ofToml? text = some config) :
    ∃ result events, session.outcome (parseConfig text) = (result, { session with events }) ∧
      config.ExpandsTo session.environment.lookup? result := by
  obtain ⟨events, parses⟩ := session.outcome_parseConfig text
  refine ⟨_, events, parses, ?_⟩
  rw [Session.parsed, decoded]
  exact config.expandsTo session.environment.lookup?

def templateText : String :=
  "[[enums]]\ntype_name = \"${TYPE}\"\npackage = \"colors\"\nvalues = [\"Red\"]\n" ++
    "destination = \"${OUT}/color.go\"\ncopyright_file = \"${LICENSE}\"\n"

def templateConfig : Config where
  enums := [
    { typeName := "${TYPE}", package := "colors", values := ["Red"],
      destination := some "${OUT}/color.go", licenseFile := some "${LICENSE}" }]

/-- The license variable may be set to bytes that are no text. -/
def templateSession (license : Option String) : Session where
  disk := ⟨[]⟩
  directory := []
  environment := ⟨[("OUT", some "gen"), ("LICENSE", license)]⟩

theorem parseConfig_templateConfig :
    Config.ofToml? templateText = some templateConfig ∧
      (∃ events, (templateSession none).outcome (parseConfig templateText) =
        (.error (.variableNotSet "LICENSE"), { templateSession none with events })) ∧
      ∃ expanded events, (templateSession (some "MIT")).outcome (parseConfig templateText) =
          (.ok expanded, { templateSession (some "MIT") with events }) ∧
        expanded.enums = [
          { typeName := "${TYPE}", package := "colors", values := ["Red"],
            destination := some "gen/color.go", licenseFile := some "MIT" }] := by
  have decoded : Config.ofToml? templateText = some templateConfig := by decide +kernel
  refine ⟨decoded, ?_, ?_⟩
  · obtain ⟨result, events, parses, expands⟩ :=
      (templateSession none).parseConfig_expandsTo decoded
    have here : expand (templateSession none).environment.lookup? "." = .ok "." := by
      decide +kernel
    have out : expand (templateSession none).environment.lookup? "${OUT}/color.go" =
        .ok "gen/color.go" := by decide +kernel
    have unset : expand (templateSession none).environment.lookup? "${LICENSE}" =
        .error "LICENSE" := by decide +kernel
    have first : FirstMissing (templateSession none).environment.lookup?
        templateConfig.pathSettings "LICENSE" :=
      .later here (.later out (.here [] unset))
    rw [(expands.error_iff _).mpr ⟨_, rfl, first⟩] at parses
    exact ⟨events, parses⟩
  · obtain ⟨result, events, parses, expands⟩ :=
      (templateSession (some "MIT")).parseConfig_expandsTo decoded
    let change : String → String := fun setting =>
      if setting = "${OUT}/color.go" then "gen/color.go"
      else if setting = "${LICENSE}" then "MIT" else setting
    have each : ∀ setting ∈ templateConfig.pathSettings,
        expand (templateSession (some "MIT")).environment.lookup? setting =
          .ok (change setting) := by decide +kernel
    rw [(expands.ok_iff _).mpr ⟨change, each, rfl⟩] at parses
    exact ⟨_, events, parses, rfl⟩

end SealedEnum
