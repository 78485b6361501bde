import SealedEnum.Proofs.Source.Columns
import SealedEnum.Proofs.Tool.Commands

namespace SealedEnum

/-! The commands accept the same configurations, and tell the same of them. -/

namespace Spec

theorem length_violations (specs : List Spec) :
    (violations specs).length = specs.countP fun spec => !spec.validate.isOk := by
  have invalid : (fun spec : Spec => spec.violation?.isSome) = fun spec => !spec.validate.isOk := by
    funext spec
    unfold validate
    cases spec.violation? <;> rfl
  rw [violations, List.length_filterMap_eq_countP, ← invalid]
  conv_rhs => rw [← List.zipIdx_map_fst 0 specs, List.countP_map]
  refine List.countP_congr ?_
  simp

end Spec

namespace Summary

end Summary

namespace Session

variable {session : Session} {config : Option Path} {specs : List Spec}

theorem length_unlicensed (session : Session) (specs : List Spec) :
    (specs.filterMap session.licenseComplaint?).length =
      specs.countP fun spec => !(session.outcome (loadLicense spec.licenseFile)).1.isOk := by
  rw [List.length_filterMap_eq_countP]
  refine List.countP_congr fun spec _ => ?_
  rw [outcome_loadLicense, licenseComplaint?]
  cases session.license spec.licenseFile <;> simp [Except.isOk, Except.toBool]

theorem length_complaints (session : Session) (specs : List Spec) :
    (session.complaints specs).length =
      (specs.countP fun spec => !spec.validate.isOk) +
        specs.countP fun spec => !(session.outcome (loadLicense spec.licenseFile)).1.isOk := by
  rw [complaints, List.length_append, List.length_map, Spec.length_violations, length_unlicensed]

theorem renders_iff {spec : Spec} :
    (∃ file, session.rendering spec = .ok file) ↔
      spec.validate.isOk = true ∧
        (session.outcome (loadLicense spec.licenseFile)).1.isOk = true := by
  rw [outcome_loadLicense, rendering]
  cases spec.validate with
  | error violation => simp [Except.isOk, Except.toBool]
  | ok accepted =>
      cases session.license spec.licenseFile <;> simp [Except.isOk, Except.toBool]

/-- There are complaints unless everything renders. -/
theorem validation_eq_ok_iff :
    session.validation specs = .ok () ↔ ∃ files, specs.mapM session.rendering = .ok files := by
  have none : (session.complaints specs).length = 0 ↔
      ∀ spec ∈ specs, ∃ file, session.rendering spec = .ok file := by
    simp only [length_complaints, Nat.add_eq_zero_iff, List.countP_eq_zero, renders_iff,
      Bool.not_eq_true, Bool.not_eq_false', forall₂_and]
  rw [exists_mapM_eq_ok_iff, validation, ← none]
  split <;> simp_all

theorem runValidate_eq_ok_iff :
    (session.outcome (runValidate config)).1 = .ok () ↔
      ∃ specs files, session.configured config = .ok specs ∧
        specs.mapM session.rendering = .ok files := by
  obtain ⟨events, validates⟩ := outcome_runValidate session config
  rw [validates]
  cases session.configured config with
  | error failure => simp
  | ok specs => simp [validation_eq_ok_iff]

/-- A configuration loads, and asks for these specifications. -/
def AsksFor (session : Session) (config : Option Path) (specs : List Spec) : Prop :=
  ∃ loaded, (session.outcome (loadConfig config)).1 = .ok loaded ∧ loaded.specs = .ok specs

/-- A dry run comes to its end, and succeeds there. It does not where a file that it renders makes
the program end before. -/
structure DryRunSucceeds (session : Session) (config : Option Path) : Prop where
  succeeds : (session.outcome (runGenerate config { dryRun := true })).1 = .ok ()
  ends : ∀ specs, session.AsksFor config specs →
    ∀ spec ∈ specs, (Model.ofSpec spec none).isRenderable = true

theorem asksFor_iff : session.AsksFor config specs ↔ session.configured config = .ok specs :=
  configured_eq_ok_iff.symm

theorem AsksFor.unique {others : List Spec} (asks : session.AsksFor config specs)
    (again : session.AsksFor config others) : specs = others :=
  Except.ok.inj ((asksFor_iff.mp asks).symm.trans (asksFor_iff.mp again))

end Session

def longValue : String :=
  String.ofList (List.replicate (Source.Registry.longestValue + 1) 'A')

def longSpec : Spec :=
  { bareSpec with destination := ⟨"./color.go"⟩, values := [longValue] }

theorem length_longValue : longValue.length = 65526 := by
  rw [longValue, String.length_ofList, List.length_replicate]
  rfl

theorem isExported_longValue : Identifier.isExported longValue = true := by
  have letter : Identifier.isPart 'A' = true := by decide
  have capital : Unicode.isUppercaseLetter 'A' = true := by decide
  rw [Identifier.isExported, longValue, String.toList_ofList, List.replicate_succ]
  simp [letter, capital]

theorem validate_longSpec : longSpec.validate = .ok () := by
  have reserved : ∀ name ∈ reservedNames "Color", name.length ≤ 30 := by decide
  exact Spec.validate_eq_ok_iff.mpr {
    destination_named := rfl
    package_identifier := by decide
    package_named := by decide
    package_not_keyword := by decide
    typeName_exported := by decide
    typeName_free := by decide
    values_nonempty := nofun
    values_exported := List.forall_mem_singleton.mpr isExported_longValue
    values_free := by
      refine List.forall_mem_singleton.mpr fun taken => ?_
      have short := reserved longValue taken
      rw [length_longValue] at short
      omega
    values_nodup := List.pairwise_singleton _ longValue
    undefined_declared := nofun
    fallback_possible := nofun }

theorem isRenderable_longSpec : (Model.ofSpec longSpec none).isRenderable = false := by
  refine Bool.eq_false_iff.mpr fun renders => ?_
  have short := Source.Registry.isPaddable_iff.mp renders longValue List.mem_cons_self
  rw [length_longValue, Source.Registry.longestValue] at short
  omega

/-- A configuration file with that value. -/
def longSession : Session where
  disk := ⟨[(["enumerator.toml"],
    .file (Toml.paletteText ("\"" ++ longValue ++ "\"")).toUTF8)]⟩
  directory := []
  environment := ⟨[]⟩

theorem loadConfig_longSession :
    (longSession.outcome (loadConfig (some ⟨"enumerator.toml"⟩))).1 =
      .ok ⟨⟨"enumerator.toml"⟩, paletteConfig [longValue]⟩ := by
  have letter : Toml.isPlain 'A' = true := by decide
  have plain : ∀ c ∈ longValue.toList, Toml.isPlain c = true := by
    intro c member
    rw [longValue, String.toList_ofList] at member
    rwa [List.eq_of_mem_replicate member]
  have named : longValue.toList ≠ [] := by
    rw [longValue, String.toList_ofList]
    exact nofun
  exact loadConfig_paletteConfig rfl (ofToml?_paletteText plain named)

/-- What validates need not come to the end of a dry run. -/
theorem validate_longSession :
    (longSession.outcome (runValidate (some ⟨"enumerator.toml"⟩))).1 = .ok () ∧
      ¬ longSession.DryRunSucceeds (some ⟨"enumerator.toml"⟩) := by
  have resolves : LoadedConfig.specs ⟨⟨"enumerator.toml"⟩, paletteConfig [longValue]⟩ =
      .ok [longSpec] := rfl
  have asks : longSession.AsksFor (some ⟨"enumerator.toml"⟩) [longSpec] :=
    ⟨_, loadConfig_longSession, resolves⟩
  have renders : longSession.rendering longSpec = .ok _ :=
    Session.rendering_eq_ok_iff.mpr ⟨validate_longSpec, none, rfl, rfl⟩
  have rendered := mapM_eq_ok_iff.mpr (List.Forall₂.cons renders .nil)
  refine ⟨Session.runValidate_eq_ok_iff.mpr
    ⟨_, _, Session.asksFor_iff.mp asks, rendered⟩, fun dry => ?_⟩
  have ends := dry.ends _ asks longSpec List.mem_cons_self
  exact Bool.false_ne_true (isRenderable_longSpec.symm.trans ends)

end SealedEnum
