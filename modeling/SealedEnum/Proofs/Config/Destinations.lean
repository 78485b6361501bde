import SealedEnum.Proofs.Config.Resolution
import SealedEnum.Proofs.Host.Spelled
import SealedEnum.Proofs.Path.Join

namespace SealedEnum

/-! Which destinations of a configuration can be one file. All of them start at the directory of
the configuration file or at the root. -/

namespace Path

variable {directory path first second : Path} {before : List Char}

/-- The text goes on behind a slash, unless it starts anew at the root. -/
def Continues (before : List Char) (path : Path) : Prop :=
  path.isAbsolute = true ∨ ∃ rest, path.text.toList = before ++ '/' :: rest

theorem exists_continues_join (nonempty : directory.isEmpty = false) :
    ∃ before, ∀ path : Path, (directory.join path).Continues before := by
  obtain ⟨before, -, joined⟩ := exists_toList_join nonempty
  refine ⟨before, fun path => ?_⟩
  cases relative : path.isAbsolute with
  | true => exact .inl (by rw [join_of_isAbsolute relative, relative])
  | false => exact .inr ⟨_, joined path relative⟩

theorem isAbsolute_of_start (absolute : first.isAbsolute = true)
    (start : first.text.toList <+: second.text.toList) : second.isAbsolute = true := by
  obtain ⟨rest, whole⟩ := start
  rcases start_cases first.text.toList with ⟨others, text⟩ | text | ⟨others, text⟩ | none
  · rw [isAbsolute, ← whole, text]
    rfl
  · simp [isAbsolute, text, startsAtRoot] at absolute
  · simp [isAbsolute, text, startsAtRoot] at absolute
  · simp [isAbsolute_iff_anchor, none] at absolute

theorem Continues.join (continues : directory.Continues before) (path : Path) :
    (directory.join path).Continues before := by
  cases relative : path.isAbsolute with
  | true => exact .inl (by rw [join_of_isAbsolute relative, relative])
  | false =>
      have start := isPrefix_toList_join directory relative
      rcases continues with absolute | ⟨rest, text⟩
      · exact .inl (isAbsolute_of_start absolute start)
      · obtain ⟨more, whole⟩ := start
        exact .inr ⟨rest ++ more, by rw [← whole, text, List.append_assoc, List.cons_append]⟩

theorem anchor_eq_of_continues (first_continues : first.Continues before)
    (second_continues : second.Continues before)
    (alike : first.isAbsolute = second.isAbsolute) :
    anchor first.text.toList = anchor second.text.toList := by
  cases absolute : first.isAbsolute with
  | true =>
      rw [isAbsolute_iff_anchor.mp absolute, isAbsolute_iff_anchor.mp (alike ▸ absolute)]
  | false =>
      obtain ⟨rest, spelled⟩ := first_continues.resolve_left (by simp [absolute])
      obtain ⟨other, text⟩ := second_continues.resolve_left (by simp [← alike, absolute])
      rw [spelled, text, anchor_append_slash, anchor_append_slash before other]

end Path

/-- Two paths name one entry of a directory. -/
def Disk.Shares (disk : Disk) (directory : Place) (first second : Path) : Prop :=
  ∃ place, disk.resolve directory first = .ok place ∧ disk.resolve directory second = .ok place

theorem Disk.spelled_eq_of_shares {disk : Disk} {directory : Place} {first second : Path}
    (shares : disk.Shares directory first second) :
    spelled directory first = spelled directory second := by
  obtain ⟨place, leads, meets⟩ := shares
  rw [← spelled_of_resolve leads, ← spelled_of_resolve meets]

namespace LoadedConfig

variable {loaded : LoadedConfig}

theorem isEmpty_baseDirectory (loaded : LoadedConfig) : loaded.baseDirectory.isEmpty = false := by
  have based := loaded.based_baseDirectory
  generalize loaded.baseDirectory = directory at based
  cases based with
  | above _ nonempty => exact nonempty
  | here _ => rfl

theorem exists_continues_destinationOf (loaded : LoadedConfig) :
    ∃ before, ∀ entry, (loaded.destinationOf entry).Continues before := by
  obtain ⟨before, joined⟩ := Path.exists_continues_join loaded.isEmpty_baseDirectory
  refine ⟨before, fun entry => ?_⟩
  unfold destinationOf
  cases entry.destination with
  | some file => exact joined _
  | none => exact ((joined _).join _).join _

/-- A refused configuration has two entries that lead to one place wherever they lead. -/
theorem exists_spelled_eq_of_error {shared : SharedDestination}
    (refused : loaded.specs = .error shared) :
    ∃ earlier entry later, loaded.config.enums = earlier ++ entry :: later ∧
      ∃ owner ∈ earlier, ∀ directory,
        Disk.spelled directory (loaded.destinationOf owner) =
          Disk.spelled directory (loaded.destinationOf entry) := by
  obtain ⟨earlier, entry, later, entries, -, owner, member, same, -⟩ :=
    specs_eq_error_iff.mp refused
  exact ⟨earlier, entry, later, entries, owner, member, Disk.spelled_congr same⟩

/-- No two destinations of a configuration share an entry, if both or none start at the root and
neither goes back up. Any others share one exactly where they spell the same place. -/
theorem specs_pairwise_apart (loaded : LoadedConfig) {specs : List Spec}
    (accepted : loaded.specs = .ok specs) :
    specs.Pairwise fun first second =>
      (first.destination.isAbsolute = second.destination.isAbsolute →
        ¬ first.destination.Climbs → ¬ second.destination.Climbs →
          ∀ disk directory, ¬ Disk.Shares disk directory first.destination second.destination) ∧
      ∀ disk directory place other,
        Disk.resolve disk directory first.destination = .ok place →
          Disk.resolve disk directory second.destination = .ok other →
            (Disk.Shares disk directory first.destination second.destination ↔
              Disk.spelled directory first.destination =
                Disk.spelled directory second.destination) := by
  obtain ⟨apart, rfl⟩ := specs_eq_ok_iff.mp accepted
  obtain ⟨before, continues⟩ := loaded.exists_continues_destinationOf
  rw [List.pairwise_map]
  refine (List.pairwise_map.mp apart).imp fun {first second} different => ⟨?_, ?_⟩
  · intro alike level other disk directory shares
    have anchors := Path.anchor_eq_of_continues (continues first) (continues second) alike
    exact different (Disk.components_eq_of_spelled anchors level other
      (Disk.spelled_eq_of_shares shares))
  · intro disk directory place other leads meets
    refine ⟨Disk.spelled_eq_of_shares, fun same => ⟨place, leads, ?_⟩⟩
    rw [meets, Disk.spelled_of_resolve leads, same, ← Disk.spelled_of_resolve meets]

end LoadedConfig

/-- Three spellings of one file, and another file. -/
def sharingConfig : LoadedConfig where
  path := ⟨"enumerator.toml"⟩
  config := {
    enums := ["color.go", "sub/../color.go", "/work/color.go", "sub/color.go"].map fun file =>
      { typeName := "Color", package := "colors", values := ["Red"], destination := some file } }

def sharingSpecs : List Spec :=
  sharingConfig.config.enums.map sharingConfig.specOf

def sharingDisk : Disk :=
  ⟨[(["work"], .directory), (["work", "sub"], .directory)]⟩

theorem specs_sharingConfig :
    sharingConfig.specs = .ok sharingSpecs ∧
      ∀ disk directory,
        ¬ Disk.Shares disk directory ⟨"./color.go"⟩ ⟨"./sub/color.go"⟩ := by
  have accepted : sharingConfig.specs = .ok sharingSpecs := rfl
  have apart := LoadedConfig.specs_pairwise_apart sharingConfig accepted
  have first := (List.pairwise_cons.mp apart).1 (sharingConfig.specOf
    { typeName := "Color", package := "colors", values := ["Red"],
      destination := some "sub/color.go" }) (by decide)
  exact ⟨accepted, first.1 rfl (by decide) (by decide)⟩

/-- Going back up, or starting at the root, leads accepted destinations to one file. -/
theorem specs_share_entry :
    ∃ plain climbing absolute other,
      sharingConfig.specs = .ok [plain, climbing, absolute, other] ∧
        sharingDisk.Shares ["work"] plain.destination climbing.destination ∧
          sharingDisk.Shares ["work"] plain.destination absolute.destination :=
  ⟨_, _, _, _, rfl, ⟨["work", "color.go"], rfl, rfl⟩, ⟨["work", "color.go"], rfl, rfl⟩⟩

end SealedEnum
