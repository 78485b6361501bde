import SealedEnum.Proofs.Config.EmptyDestination
import SealedEnum.Proofs.Spec.Valid
import SealedEnum.Proofs.Text.SnakeCase

namespace SealedEnum

open SealedEnum.Identifier SealedEnum.Text

/-! Where an entry goes that says nothing about it: right into the directory of its package,
whatever the package and the type are called. -/

namespace Path

theorem plain_of_isIdentifier {name : String} (identifier : isIdentifier name = true) :
    Plain name := by
  have dots : '.' ∉ name.toList := not_mem_of_isIdentifier identifier (by decide +kernel)
  refine ⟨ne_empty_of_isIdentifier identifier, ?_, ?_, ?_⟩
  · rintro rfl
    exact dots (by decide)
  · rintro rfl
    exact dots (by decide)
  · exact not_mem_of_isIdentifier identifier (by decide +kernel)

theorem plain_sourceName {stem : String} (single : '/' ∉ stem.toList) : Plain (stem ++ ".go") := by
  have last : 'o' ∈ (stem ++ ".go").toList := by simp
  refine ⟨?_, ?_, ?_, by simpa using single⟩
  all_goals
    intro same
    rw [same] at last
    exact absurd last (by decide)

end Path

namespace Disk

variable {disk : Disk} {directory parent : Place} {folder : Path} {name last : String}

theorem Writable.of_join (writable : disk.Writable directory (folder.join ⟨name⟩) parent last)
    (plain : Path.Plain name) (nonempty : folder.isEmpty = false) :
    disk.directoryAt directory folder = .ok parent ∧ last = name := by
  refine ⟨writable.directoryAt_of_above (plain.above_join nonempty), ?_⟩
  have parts := filter_segments_of_target writable.target writable.ne_dot
  rw [filter_segments, Path.names_join plain.isAbsolute_eq nonempty, plain.names_eq,
    List.map_append] at parts
  simpa using (List.append_inj_right' parts rfl).symm

end Disk

/-- The file of a specification is an entry of a folder: the path says so, and this is where it
gets written. -/
structure Spec.LiesIn (spec : Spec) (folder : Path) (name : String) : Prop where
  components : spec.destination.components = folder.components ++ [.name name]
  written : ∀ {session after : Session} {file : GeneratedFile},
    session.outcome (generate spec) = (.ok file, after) →
      ∃ parent content, session.disk.directoryAt session.directory folder = .ok parent ∧
        after.disk = session.disk.put (parent ++ [name]) (.file content)

theorem Spec.liesIn_of_join {spec : Spec} {folder : Path} {name : String}
    (joined : spec.destination = folder.join ⟨name⟩) (plain : Path.Plain name)
    (nonempty : folder.isEmpty = false) : spec.LiesIn folder name where
  components := by rw [joined, plain.components_join nonempty]
  written := by
    intro session after file generated
    obtain ⟨rendered, disk, events, renders, replaced, -, rfl⟩ := Session.generate_eq_ok generated
    rw [Session.path_of_rendering renders, joined] at replaced
    obtain ⟨parent, last, replaceable, rfl⟩ := Disk.replace_eq_ok_iff.mp replaced
    obtain ⟨found, rfl⟩ := replaceable.toWritable.of_join plain nonempty
    exact ⟨parent, rendered.bytes, found, rfl⟩

namespace LoadedConfig

variable {loaded : LoadedConfig} {entry : EnumSettings}

/-- The directory that packages have their directories in. -/
def packageRoot (loaded : LoadedConfig) : Path :=
  loaded.baseDirectory.join ⟨loaded.config.general.outputDirectory⟩

/-- A specification for a source file in the directory of its package. -/
structure InPackage (loaded : LoadedConfig) (spec : Spec) (stem : String) : Prop where
  named : stem ≠ ""
  single : '/' ∉ stem.toList
  components : spec.destination.components =
    loaded.packageRoot.components ++ [.name spec.package, .name (stem ++ ".go")]
  child : spec.LiesIn (loaded.packageRoot.join ⟨spec.package⟩) (stem ++ ".go")

theorem destination_specOf (defaulted : entry.destination = none) :
    (loaded.specOf entry).destination =
      (loaded.packageRoot.join ⟨entry.package⟩).join ⟨snakeCase entry.typeName ++ ".go"⟩ := by
  simp only [specOf, destinationOf, defaulted, packageRoot]

theorem isEmpty_packageRoot (loaded : LoadedConfig) : loaded.packageRoot.isEmpty = false :=
  Path.isEmpty_join loaded.isEmpty_baseDirectory _

theorem specOf_inPackage (loaded : LoadedConfig) (entry : EnumSettings)
    (defaulted : entry.destination = none) (accepted : (loaded.specOf entry).validate = .ok ()) :
    loaded.InPackage (loaded.specOf entry) (snakeCase entry.typeName) := by
  have valid := Spec.validate_eq_ok_iff.mp accepted
  have package : Path.Plain entry.package := Path.plain_of_isIdentifier valid.package_identifier
  have identifier := isIdentifier_of_isExported valid.typeName_exported
  have single : '/' ∉ (snakeCase entry.typeName).toList :=
    slash_not_mem_snakeCase (not_mem_of_isIdentifier identifier (by decide +kernel))
  have root := loaded.isEmpty_packageRoot
  have child := Spec.liesIn_of_join (destination_specOf defaulted)
    (Path.plain_sourceName single) (Path.isEmpty_join root ⟨entry.package⟩)
  refine ⟨snakeCase_ne_empty valid.typeName_exported, single, ?_, child⟩
  rw [child.components, package.components_join root, List.append_assoc]
  rfl

end LoadedConfig

/-- A capital that becomes two letters, a lost word and more dots and slashes than needed. -/
def defaultedConfig : LoadedConfig where
  path := ⟨"conf/enumerator.toml"⟩
  config := {
    general := { outputDirectory := ".././gen//" }
    enums := [{ typeName := "İ__ÆtherX", package := "größe", values := ["Øre"] }] }

theorem inPackage_defaultedConfig :
    ∃ entry spec, defaultedConfig.config.enums = [entry] ∧ entry.destination = none ∧
      defaultedConfig.specs = .ok [spec] ∧ spec.validate = .ok () ∧
        defaultedConfig.InPackage spec (snakeCase entry.typeName) := by
  have accepted : ∀ entry ∈ defaultedConfig.config.enums,
      (defaultedConfig.specOf entry).validate = .ok () := by decide +kernel
  exact ⟨_, _, rfl, rfl, rfl, accepted _ List.mem_cons_self,
    LoadedConfig.specOf_inPackage defaultedConfig _ rfl (accepted _ List.mem_cons_self)⟩

example : defaultedConfig.config.enums.map defaultedConfig.destinationOf =
    [⟨"conf/.././gen//größe/i̇__æther_x.go"⟩] := by decide +kernel

end SealedEnum
