import SealedEnum.Identifier
import SealedEnum.Proofs.Unicode.Ranges

namespace SealedEnum.Unicode

/-! Which characters an identifier holds, and how exported names stand apart from keywords. -/

theorem letters_cover_uppercaseLetters :
    Ranges.covers letters uppercaseLetters = true := by
  decide +kernel

theorem isLetter_of_isUppercaseLetter {c : Char} (upper : isUppercaseLetter c = true) :
    isLetter c = true :=
  Ranges.contains_of_covers letters_cover_uppercaseLetters upper

end SealedEnum.Unicode

namespace SealedEnum.Identifier

open SealedEnum.Unicode

theorem isStart_of_isUppercaseLetter {c : Char} (upper : isUppercaseLetter c = true) :
    isStart c = true := by
  simp [isStart, isLetter_of_isUppercaseLetter upper]

theorem isPart_of_isStart {c : Char} (start : isStart c = true) : isPart c = true := by
  simp only [isStart, Bool.or_eq_true] at start
  rcases start with letter | underscore
  · simp [isPart, letter]
  · simp [isPart, underscore]

private theorem first_and_all_iff (first rest : Char → Bool) (text : List Char) :
    (match text with
      | [] => false
      | c :: others => first c && others.all rest) = true ↔
      ∃ c others, text = c :: others ∧ first c = true ∧ ∀ part ∈ others, rest part = true := by
  cases text with
  | nil => simp
  | cons c others =>
      simp only [Bool.and_eq_true, List.all_eq_true]
      constructor
      · rintro ⟨start, parts⟩
        exact ⟨c, others, rfl, start, parts⟩
      · rintro ⟨_, _, same, start, parts⟩
        cases same
        exact ⟨start, parts⟩

theorem isIdentifier_iff {name : String} :
    isIdentifier name = true ↔
      ∃ c rest, name.toList = c :: rest ∧ isStart c = true ∧
        ∀ part ∈ rest, isPart part = true :=
  first_and_all_iff isStart isPart name.toList

theorem isExported_iff {name : String} :
    isExported name = true ↔
      ∃ c rest, name.toList = c :: rest ∧ isUppercaseLetter c = true ∧
        ∀ part ∈ rest, isPart part = true :=
  first_and_all_iff isUppercaseLetter isPart name.toList

theorem isIdentifier_of_isExported {name : String} (exported : isExported name = true) :
    isIdentifier name = true := by
  obtain ⟨c, rest, spelled, upper, parts⟩ := isExported_iff.mp exported
  exact isIdentifier_iff.mpr
    ⟨c, rest, spelled, isStart_of_isUppercaseLetter upper, parts⟩

theorem isPart_of_mem {name : String} (identifier : isIdentifier name = true)
    {c : Char} (member : c ∈ name.toList) : isPart c = true := by
  obtain ⟨first, rest, spelled, start, parts⟩ := isIdentifier_iff.mp identifier
  rw [spelled] at member
  rcases List.mem_cons.mp member with rfl | later
  · exact isPart_of_isStart start
  · exact parts c later

theorem not_mem_of_isIdentifier {name : String} (identifier : isIdentifier name = true)
    {c : Char} (outside : isPart c = false) : c ∉ name.toList := by
  intro member
  rw [isPart_of_mem identifier member] at outside
  contradiction

theorem first_ne_of_isIdentifier {name : String} (identifier : isIdentifier name = true)
    {c other : Char} {rest : List Char} (first : name.toList = c :: rest)
    (outside : isPart other = false) : c ≠ other := by
  rintro rfl
  exact not_mem_of_isIdentifier identifier outside (by rw [first]; exact .head rest)

theorem ne_empty_of_isIdentifier {name : String} (identifier : isIdentifier name = true) :
    name ≠ "" := by
  rintro rfl
  contradiction

theorem isIdentifier_append {first second : String}
    (identifier : isIdentifier first = true)
    (parts : ∀ c ∈ second.toList, isPart c = true) :
    isIdentifier (first ++ second) = true := by
  obtain ⟨c, rest, spelled, start, firstParts⟩ := isIdentifier_iff.mp identifier
  refine isIdentifier_iff.mpr ⟨c, rest ++ second.toList, ?_, start, ?_⟩
  · rw [String.toList_append, spelled, List.cons_append]
  · intro part member
    rcases List.mem_append.mp member with early | late
    · exact firstParts part early
    · exact parts part late

theorem exists_upper_of_isExported {name : String} (exported : isExported name = true) :
    ∃ c ∈ name.toList, isUppercaseLetter c = true := by
  obtain ⟨c, rest, spelled, upper, _⟩ := isExported_iff.mp exported
  exact ⟨c, by simp [spelled], upper⟩

theorem keywords_have_no_upper :
    (keywords.all fun word => word.toList.all fun c => !isUppercaseLetter c) = true := by
  decide +kernel

theorem isKeyword_eq_false {name : String}
    (upper : ∃ c ∈ name.toList, isUppercaseLetter c = true) : isKeyword name = false := by
  obtain ⟨c, member, upper⟩ := upper
  cases keyword : isKeyword name with
  | false => rfl
  | true =>
      have word : name ∈ keywords := by simpa [isKeyword] using keyword
      have small := List.all_eq_true.mp
        (List.all_eq_true.mp keywords_have_no_upper name word) c member
      simp [upper] at small

end SealedEnum.Identifier
