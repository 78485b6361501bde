import Mathlib.Data.List.Perm.Basic
import SealedEnum.Proofs.CommandLine.Reading
import SealedEnum.Proofs.Spec.Valid
import SealedEnum.Proofs.Text.Pieces
import SealedEnum.Proofs.Tool.Commands

namespace SealedEnum

open SealedEnum.CommandLine SealedEnum.Identifier SealedEnum.Text

/-! Specifications described by the options of `emit`. Every valid one can be, in any order of the
options, and is generated as it is without the command line. -/

namespace Spec

variable {spec : Spec} {dryRun : Bool} {setting : Setting} {value : Option String}

/-- An empty undefined value counts as none, and so does an empty license path. -/
def withoutEmpty (spec : Spec) : Spec :=
  { spec with
    undefinedValue := spec.undefined?
    licenseFile := spec.licenseFile.filter fun path => !path.isEmpty }

/-- Whether an option is given to describe a specification, and with which value. -/
def argument? (spec : Spec) (dryRun : Bool) : Setting → Option (Option String)
  | .typeName => some (some spec.typeName)
  | .package => some (some spec.package)
  | .values => some (some (String.intercalate "," spec.values))
  | .undefinedValue => spec.undefined?.map some
  | .json => if spec.json.generate then some none else none
  | .nilToUndefined => if spec.json.nilToUndefined then some none else none
  | .licenseFile => spec.withoutEmpty.licenseFile.map fun path => some path.text
  | .destination => some (some spec.destination.text)
  | .dryRun => if dryRun then some none else none
  | _ => none

def occurrences (spec : Spec) (dryRun : Bool) : List Occurrence :=
  Subcommand.emit.ownSettings.filterMap fun setting =>
    (spec.argument? dryRun setting).map (Occurrence.mk setting)

/-- The words that describe a specification to `emit`. -/
def emitWords (spec : Spec) (dryRun : Bool) : List String :=
  (spec.occurrences dryRun).map Occurrence.word

theorem own_of_argument (argued : spec.argument? dryRun setting = some value) :
    setting ∈ Subcommand.emit.ownSettings := by
  cases setting <;> first | contradiction | decide

theorem mem_occurrences_iff :
    ⟨setting, value⟩ ∈ spec.occurrences dryRun ↔
      spec.argument? dryRun setting = some value := by
  rw [occurrences, List.mem_filterMap]
  constructor
  · rintro ⟨other, -, same⟩
    obtain ⟨found, argued, equal⟩ := Option.map_eq_some_iff.mp same
    obtain ⟨rfl, rfl⟩ := Occurrence.mk.inj equal
    exact argued
  · intro argued
    exact ⟨setting, own_of_argument argued, by rw [argued, Option.map_some]⟩

theorem nodup_occurrences (spec : Spec) (dryRun : Bool) :
    ((spec.occurrences dryRun).map Occurrence.setting).Nodup := by
  rw [occurrences, List.map_filterMap]
  refine List.Nodup.filterMap ?_ (by decide)
  simp only [Option.map_map, Option.mem_def, Option.map_eq_some_iff]
  rintro first second _ ⟨_, -, rfl⟩ ⟨_, -, same⟩
  exact same.symm

theorem argument?_switch {on : Bool}
    (argued : (if on then some none else none : Option (Option String)) = some value) :
    on = true ∧ value = none := by
  cases on with
  | false => contradiction
  | true => exact ⟨rfl, (Option.some.inj argued).symm⟩

theorem valued_of_argument (argued : spec.argument? dryRun setting = some value) :
    setting.takesValue = value.isSome := by
  cases setting with
  | typeName | package | values | destination =>
      obtain rfl := Option.some.inj argued
      rfl
  | undefinedValue | licenseFile =>
      obtain ⟨_, -, rfl⟩ := Option.map_eq_some_iff.mp argued
      rfl
  | json | nilToUndefined | dryRun =>
      obtain ⟨-, rfl⟩ := argument?_switch argued
      rfl
  | _ => contradiction

theorem accepts_of_argument (valid : spec.Valid) {text : String}
    (argued : spec.argument? dryRun setting = some (some text)) :
    setting.accepts text = true := by
  cases setting with
  | typeName | package | values | undefinedValue => rfl
  | destination =>
      obtain rfl := Option.some.inj (Option.some.inj argued)
      exact congrArg Bool.not valid.destination_named
  | licenseFile =>
      obtain ⟨path, kept, same⟩ := Option.map_eq_some_iff.mp argued
      obtain rfl := Option.some.inj same
      exact (Option.filter_eq_some_iff.mp kept).2
  | json | nilToUndefined | dryRun =>
      obtain ⟨-, absent⟩ := argument?_switch argued
      contradiction
  | _ => contradiction

theorem fits_of_argument (valid : spec.Valid)
    (argued : spec.argument? dryRun setting = some value) :
    Occurrence.Fits (.within .emit) ⟨setting, value⟩ where
  known := List.mem_append_left _ (own_of_argument argued)
  valued := valued_of_argument argued
  not_help := by
    rintro rfl
    contradiction
  not_version := by
    rintro rfl
    contradiction
  accepted := by
    rintro text rfl
    exact accepts_of_argument valid argued

theorem means_of_perm {given : List Occurrence} (order : given.Perm (spec.occurrences dryRun)) :
    Reading.Means ⟨given, none⟩ (spec.argument? dryRun) where
  released := rfl
  distinct := (order.map Occurrence.setting).nodup_iff.mpr (spec.nodup_occurrences dryRun)
  mem_iff := fun _ _ => order.mem_iff.trans mem_occurrences_iff

/-- The options that the words of a specification stand for. -/
def emitOptions (spec : Spec) (dryRun : Bool) : EmitOptions where
  typeName := spec.typeName
  package := spec.package
  values := spec.values
  undefinedValue := spec.withoutEmpty.undefinedValue
  json := spec.json.generate
  nilToUndefined := spec.json.nilToUndefined
  licenseFile := spec.withoutEmpty.licenseFile
  destination := spec.destination
  dryRun := dryRun

/-- Exported names hold no comma, so that they can be told apart behind one option. -/
theorem splitAt_joined (valid : spec.Valid) :
    (splitAt ',' (String.intercalate "," spec.values).toList).map String.ofList = spec.values := by
  have free : ∀ letters ∈ spec.values.map String.toList, ',' ∉ letters := by
    intro letters member
    obtain ⟨value, listed, rfl⟩ := List.mem_map.mp member
    exact not_mem_of_isIdentifier
      (isIdentifier_of_isExported (valid.values_exported value listed)) (by decide)
  have some : spec.values.map String.toList ≠ [] := by simpa using valid.values_nonempty
  have comma : (",").toList = [','] := rfl
  rw [String.toList_intercalate, comma, splitAt_intercalate some free, List.map_map]
  exact List.map_id'' (fun _ => String.ofList_toList) _

theorem isSome_argument?_json (spec : Spec) (dryRun : Bool) :
    (spec.argument? dryRun .json).isSome = spec.json.generate := by
  cases on : spec.json.generate <;> simp [argument?, on]

theorem isSome_argument?_nilToUndefined (spec : Spec) (dryRun : Bool) :
    (spec.argument? dryRun .nilToUndefined).isSome = spec.json.nilToUndefined := by
  cases on : spec.json.nilToUndefined <;> simp [argument?, on]

theorem isSome_argument?_dryRun (spec : Spec) (dryRun : Bool) :
    (spec.argument? dryRun .dryRun).isSome = dryRun := by
  cases dryRun <;> simp [argument?]

theorem emitOptions_of_means (valid : spec.Valid) {reading : Reading}
    (means : reading.Means (spec.argument? dryRun)) :
    reading.emitOptions = .ok (spec.emitOptions dryRun) := by
  have listed : reading.list .values = spec.values :=
    (means.list_eq rfl).trans (splitAt_joined valid)
  have undefined : reading.value? .undefinedValue = spec.undefined? := by
    rw [means.value?_eq, argument?]
    cases spec.undefined? <;> rfl
  have license : (reading.value? .licenseFile).map Path.mk = spec.withoutEmpty.licenseFile := by
    rw [means.value?_eq, argument?]
    cases spec.withoutEmpty.licenseFile <;> rfl
  have given : reading.isGiven .values = true := by
    rw [means.isGiven_eq]
    rfl
  rw [Reading.emitOptions, given, listed, undefined, license, means.isGiven_eq, means.isGiven_eq,
    means.isGiven_eq, means.required_eq_ok rfl, means.required_eq_ok rfl, means.required_eq_ok rfl]
  rw [isSome_argument?_json, isSome_argument?_nilToUndefined, isSome_argument?_dryRun]
  rfl

theorem parse_emitWords (valid : spec.Valid) {words : List String}
    (ordered : words.Perm (spec.emitWords dryRun)) :
    CommandLine.parse none ("emit" :: words) =
      .ok { command := some (.emit (spec.emitOptions dryRun)) } := by
  -- Words in another order are the words of the occurrences in another order.
  have reordered : Relation.Comp (· = List.map Occurrence.word ·) (·.Perm ·) words
      (spec.occurrences dryRun) := by
    rw [List.eq_map_comp_perm]
    exact ordered
  obtain ⟨given, rfl, order⟩ := reordered
  have means := means_of_perm order
  have fits : ∀ occurrence ∈ given, occurrence.Fits (.within .emit) := by
    intro occurrence member
    exact fits_of_argument valid (mem_occurrences_iff.mp (order.mem_iff.mp member))
  have outer : Scope.tool.read {} ("emit" :: given.map Occurrence.word) =
      .ok ({}, some (.emit, given.map Occurrence.word)) := rfl
  have inner : (Scope.within .emit).read {} (given.map Occurrence.word) =
      .ok (⟨given, none⟩, none) := read_words fits means.distinct
  have finishes : Reading.finish ⟨given, none⟩ none = .ok ⟨given, none⟩ := by
    refine means.finish_eq_ok rfl fun asked => ?_
    rw [isSome_argument?_nilToUndefined] at asked
    rw [isSome_argument?_json]
    exact (valid.fallback_possible asked).1
  have nothing : Reading.finish {} none = .ok {} := rfl
  have alone (command : Command) :
      ofReadings none {} ⟨given, none⟩ (some command) = { command := some command } := by
    rw [ofReadings, means.value?_eq, means.isGiven_eq, means.isGiven_eq]
    rfl
  simp only [CommandLine.parse, outer, inner, finishes, nothing, Reading.command,
    emitOptions_of_means valid means, alone, bind, Except.bind, pure, Except.pure, Except.map]

theorem undefined?_withoutEmpty (spec : Spec) : spec.withoutEmpty.undefined? = spec.undefined? := by
  rw [undefined?, withoutEmpty, undefined?, Option.filter_filter]
  simp

theorem validate_withoutEmpty (spec : Spec) : spec.withoutEmpty.validate = spec.validate :=
  validate_congr (undefined?_withoutEmpty spec)

theorem ofSpec_withoutEmpty (spec : Spec) (license : Option String) :
    Model.ofSpec spec.withoutEmpty license = Model.ofSpec spec license :=
  Model.ofSpec_congr (undefined?_withoutEmpty spec) license

variable {m : Type → Type} [Monad m] [Host m]

theorem loadLicense_withoutEmpty (spec : Spec) :
    (loadLicense spec.withoutEmpty.licenseFile : Run m (Option String)) =
      loadLicense spec.licenseFile := by
  rw [loadLicense, withoutEmpty, Option.filter_filter]
  simp [loadLicense]

theorem renderFile_withoutEmpty (spec : Spec) :
    (renderFile spec.withoutEmpty : Run m RenderedFile) = renderFile spec := by
  simp only [renderFile, validate_withoutEmpty, loadLicense_withoutEmpty, ofSpec_withoutEmpty]
  rfl

theorem generate_withoutEmpty (spec : Spec) :
    (generate spec.withoutEmpty : Run m GeneratedFile) = generate spec := by
  rw [generate, renderFile_withoutEmpty, generate]

theorem renderSpec_withoutEmpty (spec : Spec) :
    (renderSpec spec.withoutEmpty : Run m String) = renderSpec spec := by
  rw [renderSpec, renderFile_withoutEmpty, renderSpec]

end Spec

namespace Session

theorem run_readCommandLine {session : Session} {spec : Spec} {dryRun : Bool}
    {words : List String} (valid : spec.Valid)
    (unset : session.lookupPath? CommandLine.configVariable = none)
    (ordered : words.Perm (spec.emitWords dryRun)) :
    (readCommandLine ("emit" :: words) : StateM Session _).run session =
      (.ok { command := some (.emit (spec.emitOptions dryRun)) }, session) := by
  have reads : (readCommandLine ("emit" :: words) : StateM Session _).run session =
      (CommandLine.parse ((session.lookupPath? CommandLine.configVariable).map Path.text)
        ("emit" :: words), session) := rfl
  rw [reads, unset, Option.map_none, Spec.parse_emitWords valid ordered]

/-- A valid specification can be given on the command line, its options in any order, and has
the effect there that it has without one. In a dry run its source is printed instead. -/
theorem emit_generates (session : Session) (spec : Spec) (accepted : spec.validate = .ok ())
    (unset : session.lookupPath? CommandLine.configVariable = none) :
    (∀ words : List String, words.Perm (spec.emitWords false) → ∃ commandLine options,
      (readCommandLine ("emit" :: words) : StateM Session _).run session =
        (.ok commandLine, session) ∧
      commandLine = { command := some (.emit options) } ∧ options.spec = spec.withoutEmpty ∧
      ∃ events, session.outcome commandLine.run =
        ((session.outcome (generate spec)).1.map fun _ => (),
          { (session.outcome (generate spec)).2 with events })) ∧
    ∀ words : List String, words.Perm (spec.emitWords true) → ∃ commandLine options,
      (readCommandLine ("emit" :: words) : StateM Session _).run session =
        (.ok commandLine, session) ∧
      commandLine = { command := some (.emit options) } ∧ options.spec = spec.withoutEmpty ∧
      (∀ text, (session.outcome (renderSpec spec)).1 = .ok text →
        session.outcome commandLine.run =
          (.ok (), { session with output := session.output ++ text })) ∧
      ∀ failure, (session.outcome (renderSpec spec)).1 = .error failure →
        session.outcome commandLine.run = (.error failure, session) := by
  have valid := Spec.validate_eq_ok_iff.mp accepted
  constructor
  · intro words ordered
    have wet : (spec.emitOptions false).dryRun = false := rfl
    obtain ⟨events, emits⟩ := outcome_runEmit_write session wet
    have same : (spec.emitOptions false).spec = spec.withoutEmpty := rfl
    rw [same, spec.generate_withoutEmpty] at emits
    exact ⟨_, _, run_readCommandLine valid unset ordered, rfl, rfl, events, emits⟩
  · intro words ordered
    have dry : (spec.emitOptions true).dryRun = true := rfl
    have emits := outcome_runEmit_dryRun session dry
    have same : (spec.emitOptions true).spec = spec.withoutEmpty := rfl
    rw [same, spec.renderSpec_withoutEmpty] at emits
    refine ⟨_, _, run_readCommandLine valid unset ordered, rfl, rfl, ?_, ?_⟩
    · intro text renders
      rw [renders] at emits
      exact emits
    · intro failure refuses
      rw [refuses] at emits
      exact emits

end Session

def describedSpec : Spec where
  destination := ⟨"color.go"⟩
  licenseFile := some ⟨""⟩
  package := "colors"
  typeName := "Color"
  values := ["Unknown", "Red"]
  undefinedValue := some "Unknown"
  json := ⟨true, true⟩

theorem emit_generates_describedSpec :
    describedSpec.validate = .ok () ∧
    bareSession.lookupPath? CommandLine.configVariable = none ∧
    (∃ commandLine options,
      (readCommandLine ["emit", "--nil-to-undefined", "--values=Unknown,Red", "--type=Color",
        "--destination=color.go", "--json", "--package=colors", "--undefined=Unknown"] :
          StateM Session _).run bareSession = (.ok commandLine, bareSession) ∧
      commandLine = { command := some (.emit options) } ∧
      options.spec = { describedSpec with licenseFile := none } ∧
      ∃ events, bareSession.outcome commandLine.run =
        ((bareSession.outcome (generate describedSpec)).1.map fun _ => (),
          { (bareSession.outcome (generate describedSpec)).2 with events })) ∧
    ∃ commandLine, ∀ text, (bareSession.outcome (renderSpec describedSpec)).1 = .ok text →
      (readCommandLine ["emit", "--dry-run", "--nil-to-undefined", "--json", "--type=Color",
        "--package=colors", "--destination=color.go", "--values=Unknown,Red",
        "--undefined=Unknown"] : StateM Session _).run bareSession =
          (.ok commandLine, bareSession) ∧
      (bareSession.outcome commandLine.run).2.output = text := by
  have emits := Session.emit_generates bareSession describedSpec rfl rfl
  have ordered : ["--dry-run", "--nil-to-undefined", "--json", "--type=Color", "--package=colors",
      "--destination=color.go", "--values=Unknown,Red", "--undefined=Unknown"].Perm
        (describedSpec.emitWords true) := by decide
  refine ⟨rfl, rfl, emits.1 _ (by decide), ?_⟩
  obtain ⟨commandLine, options, reads, -, -, prints, -⟩ := emits.2 _ ordered
  refine ⟨commandLine, fun text renders => ⟨reads, ?_⟩⟩
  rw [prints text renders]
  exact String.empty_append

end SealedEnum
