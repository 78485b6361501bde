import Mathlib.Data.List.Nodup
import Mathlib.Data.List.TakeWhile
import SealedEnum.CommandLine.Parse

namespace SealedEnum.CommandLine

/-! Options written as words, and what a scope reads from such words in any order. -/

/-- An option as one word, with its value behind an equals sign. -/
def Occurrence.word (occurrence : Occurrence) : String :=
  match occurrence.value with
  | none => "--" ++ occurrence.setting.longName
  | some value => "--" ++ occurrence.setting.longName ++ "=" ++ value

/-- Nothing speaks against an occurrence but an earlier one. -/
structure Occurrence.Fits (scope : Scope) (occurrence : Occurrence) : Prop where
  known : occurrence.setting ∈ scope.settings
  valued : occurrence.setting.takesValue = occurrence.value.isSome
  not_help : occurrence.setting ≠ .help
  not_version : occurrence.setting ≠ .version
  accepted : ∀ value, occurrence.value = some value → occurrence.setting.accepts value = true

variable {scope : Scope} {occurrence : Occurrence} {given : List Occurrence}
  {setting : Setting} {reading : Reading}

theorem longName_ne_empty (setting : Setting) : setting.longName.toList ≠ [] := by
  cases setting <;> decide

theorem equals_not_mem_longName (setting : Setting) : '=' ∉ setting.longName.toList := by
  cases setting <;> decide

theorem longWord_of_not_mem {name : List Char} (free : '=' ∉ name) :
    longWord name = .long (String.ofList name) none := by
  have all : ∀ c ∈ name, decide (c ≠ '=') = true := by
    intro c member
    exact decide_eq_true fun same => free (same ▸ member)
  rw [longWord, List.takeWhile_eq_self_iff.mpr all, List.dropWhile_eq_nil_iff.mpr all]

theorem longWord_equals {name value : List Char} (free : '=' ∉ name) :
    longWord (name ++ '=' :: value) =
      .long (String.ofList name) (some (String.ofList value)) := by
  have all : ∀ c ∈ name, decide (c ≠ '=') = true := by
    intro c member
    exact decide_eq_true fun same => free (same ▸ member)
  rw [longWord, List.takeWhile_append_of_pos all, List.dropWhile_append_of_pos all,
    List.takeWhile_cons_of_neg (by simp), List.dropWhile_cons_of_neg (by simp), List.append_nil]

theorem ofString_of_dashes {text : String} {rest : List Char} (nonempty : rest ≠ [])
    (spelled : text.toList = '-' :: '-' :: rest) : Word.ofString text = longWord rest := by
  obtain ⟨c, others, rfl⟩ := List.exists_cons_of_ne_nil nonempty
  rw [Word.ofString, spelled]
  rfl

theorem ofString_word (occurrence : Occurrence) :
    Word.ofString occurrence.word = .long occurrence.setting.longName occurrence.value := by
  obtain ⟨setting, value⟩ := occurrence
  have free := equals_not_mem_longName setting
  cases value with
  | none =>
      rw [ofString_of_dashes (longName_ne_empty setting) (by simp [Occurrence.word]),
        longWord_of_not_mem free, String.ofList_toList]
  | some value =>
      have spelled : (Occurrence.mk setting (some value)).word.toList =
          '-' :: '-' :: (setting.longName.toList ++ '=' :: value.toList) := by
        simp [Occurrence.word]
      rw [ofString_of_dashes (by simp) spelled, longWord_equals free, String.ofList_toList,
        String.ofList_toList]

theorem longNames_nodup (scope : Scope) : (scope.settings.map Setting.longName).Nodup := by
  cases scope with
  | tool => decide
  | within subcommand => cases subcommand <;> decide

theorem find?_longName (known : setting ∈ scope.settings) :
    (scope.settings.find? fun other => other.longName == setting.longName) = some setting := by
  cases found : scope.settings.find? fun other => other.longName == setting.longName with
  | none => simpa using List.find?_eq_none.mp found setting known
  | some other =>
      have same : other.longName = setting.longName := by simpa using List.find?_some found
      exact congrArg some (List.inj_on_of_nodup_map (longNames_nodup scope)
        (List.mem_of_find?_eq_some found) known same)

theorem give_of_fits (fits : occurrence.Fits scope)
    (fresh : occurrence.setting ∉ given.map Occurrence.setting) :
    Reading.give ⟨given, none⟩ occurrence = .ok ⟨given ++ [occurrence], none⟩ := by
  have unmet : Reading.isGiven ⟨given, none⟩ occurrence.setting = false := by
    simpa [Reading.isGiven, List.any_eq_false] using fresh
  have present : (occurrence.setting.takesValue && occurrence.value.isNone) = false := by
    rw [fits.valued]
    cases occurrence.value <;> rfl
  have accepted : (occurrence.value.any fun value => !occurrence.setting.accepts value) = false := by
    cases held : occurrence.value with
    | none => rfl
    | some value => simp [fits.accepted value held]
  simp [Reading.give, present, fits.not_help, fits.not_version, unmet, accepted]

theorem takeLong_of_fits (fits : occurrence.Fits scope)
    (fresh : occurrence.setting ∉ given.map Occurrence.setting) :
    Reading.takeLong scope.settings ⟨given, none⟩ occurrence.setting.longName occurrence.value =
      .ok ⟨given ++ [occurrence], none⟩ := by
  have gives := give_of_fits fits fresh
  have valued := fits.valued
  rw [Reading.takeLong, find?_longName fits.known]
  obtain ⟨setting, value⟩ := occurrence
  dsimp only at valued gives ⊢
  rw [valued]
  cases value <;> exact gives

theorem read_cons_of_long {text name : String} {value : Option String} {rest : List String}
    {next : Reading} (word : Word.ofString text = .long name value)
    (takes : reading.takeLong scope.settings name value = .ok next) :
    scope.read reading (text :: rest) = scope.read next rest := by
  rw [Scope.read.eq_def]
  dsimp only
  rw [word]
  dsimp only
  rw [takes]

/-- Words of fitting occurrences, no two of one option, are read as these occurrences. -/
theorem read_words {occurrences : List Occurrence}
    (fits : ∀ occurrence ∈ occurrences, occurrence.Fits scope)
    (distinct : ((given ++ occurrences).map Occurrence.setting).Nodup) :
    scope.read ⟨given, none⟩ (occurrences.map Occurrence.word) =
      .ok (⟨given ++ occurrences, none⟩, none) := by
  induction occurrences generalizing given with
  | nil => simp [Scope.read]
  | cons occurrence rest ih =>
      rw [List.forall_mem_cons] at fits
      have fresh : occurrence.setting ∉ given.map Occurrence.setting := by
        intro member
        rw [List.map_append, List.nodup_append] at distinct
        exact distinct.2.2 _ member _ (by simp) rfl
      rw [List.append_cons] at distinct ⊢
      rw [List.map_cons,
        read_cons_of_long (ofString_word occurrence) (takeLong_of_fits fits.1 fresh)]
      exact ih fits.2 distinct

/-! What a reading tells about each option: whether it is given, and with which value. -/

structure Reading.Means (reading : Reading) (argument? : Setting → Option (Option String)) :
    Prop where
  released : reading.held = none
  distinct : (reading.given.map Occurrence.setting).Nodup
  mem_iff : ∀ setting value, ⟨setting, value⟩ ∈ reading.given ↔ argument? setting = some value

namespace Reading.Means

variable {argument? : Setting → Option (Option String)}

theorem isGiven_eq (means : reading.Means argument?) (setting : Setting) :
    reading.isGiven setting = (argument? setting).isSome := by
  rw [Bool.eq_iff_iff, isGiven, List.any_eq_true, Option.isSome_iff_exists]
  constructor
  · rintro ⟨⟨other, value⟩, member, same⟩
    obtain rfl : other = setting := by simpa using same
    exact ⟨value, (means.mem_iff other value).mp member⟩
  · rintro ⟨value, argued⟩
    exact ⟨⟨setting, value⟩, (means.mem_iff setting value).mpr argued, by simp⟩

theorem filter_eq (means : reading.Means argument?) (setting : Setting) :
    (reading.given.filter fun occurrence => occurrence.setting = setting) =
      ((argument? setting).map (Occurrence.mk setting)).toList := by
  cases argued : argument? setting with
  | none =>
      refine List.filter_eq_nil_iff.mpr ?_
      rintro ⟨other, value⟩ member same
      obtain rfl : other = setting := by simpa using same
      rw [means.mem_iff, argued] at member
      contradiction
  | some value =>
      obtain ⟨before, after, parts⟩ :=
        List.append_of_mem ((means.mem_iff setting value).mpr argued)
      have distinct := means.distinct
      rw [parts, List.map_append, List.map_cons, List.nodup_middle, List.nodup_cons] at distinct
      -- No other occurrence is one of the same option.
      have others : ∀ occurrence ∈ before ++ after, ¬ occurrence.setting = setting := by
        intro occurrence member same
        refine distinct.1 ?_
        rw [← List.map_append]
        exact List.mem_map.mpr ⟨occurrence, member, same⟩
      have none : (before ++ after).filter (fun occurrence => occurrence.setting = setting) = [] :=
        List.filter_eq_nil_iff.mpr fun occurrence member => by
          simpa using others occurrence member
      rw [List.filter_append, List.append_eq_nil_iff] at none
      rw [parts, List.filter_append, List.filter_cons_of_pos (by simp), none.1, none.2]
      rfl

theorem valuesOf_eq (means : reading.Means argument?) (setting : Setting) :
    reading.valuesOf setting = (argument? setting).join.toList := by
  rw [valuesOf, means.filter_eq]
  cases argument? setting with
  | none => rfl
  | some value => cases value <;> rfl

theorem value?_eq (means : reading.Means argument?) (setting : Setting) :
    reading.value? setting = (argument? setting).join := by
  rw [value?, means.valuesOf_eq]
  cases (argument? setting).join <;> rfl

theorem required_eq_ok (means : reading.Means argument?) {value : String}
    (argued : argument? setting = some (some value)) : reading.required setting = .ok value := by
  rw [required, means.value?_eq, argued]
  rfl

theorem list_eq (means : reading.Means argument?) {value : String}
    (argued : argument? setting = some (some value)) :
    reading.list setting = (Text.splitAt ',' value.toList).map String.ofList := by
  rw [list, means.valuesOf_eq, argued]
  simp

/-- Without a variable in its place, a path of the configuration may be left out. -/
theorem finish_eq_ok (means : reading.Means argument?) (unchecked : argument? .check = none)
    (coded : (argument? .nilToUndefined).isSome = true → (argument? .json).isSome = true) :
    reading.finish none = .ok reading := by
  have released : reading.release = .ok reading := by rw [release, means.released]
  have apart : (reading.isGiven .check && reading.isGiven .dryRun) = false := by
    rw [means.isGiven_eq, unchecked]
    rfl
  have backed : (reading.isGiven .nilToUndefined && !reading.isGiven .json) = false := by
    rw [means.isGiven_eq, means.isGiven_eq]
    cases asked : (argument? .nilToUndefined).isSome with
    | false => rfl
    | true => simp [coded asked]
  rw [finish, released]
  simp [apart, backed, bind, Except.bind, pure, Except.pure]

end Reading.Means

end SealedEnum.CommandLine
