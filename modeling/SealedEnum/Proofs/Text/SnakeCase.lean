import SealedEnum.Proofs.Identifier
import SealedEnum.Proofs.Text.Pieces
import SealedEnum.Text.SnakeCase

namespace SealedEnum.Text

open SealedEnum.Unicode SealedEnum.Identifier

/-! The snake case of an exported name is a name for a file: some text without a slash. -/

theorem mem_of_mem_wordsAfter {word piece : List Char} {clusters : List Cluster}
    (member : piece ∈ wordsAfter word clusters) {c : Char} (inside : c ∈ piece) :
    c ∈ word ∨ c ∈ clusters.flatten := by
  induction clusters generalizing word with
  | nil =>
      rw [wordsAfter, List.mem_singleton] at member
      exact .inl (member ▸ inside)
  | cons cluster rest ih =>
      rw [List.flatten_cons, List.mem_append]
      rw [wordsAfter] at member
      split at member
      · rcases List.mem_cons.mp member with rfl | later
        · exact .inl inside
        · exact .inr (.inr ((ih later).resolve_left (by simp)))
      · split at member
        · rcases List.mem_cons.mp member with rfl | later
          · exact (List.mem_append.mp inside).imp_right .inl
          · exact .inr (.inr ((ih later).resolve_left (by simp)))
        · rcases ih member with grown | later
          · exact (List.mem_append.mp grown).imp_right .inl
          · exact .inr (.inr later)

theorem mem_of_mem_words {name piece : List Char} (member : piece ∈ words name) {c : Char}
    (inside : c ∈ piece) : c ∈ name := by
  have found := (mem_of_mem_wordsAfter member inside).resolve_left (by simp)
  rwa [flatten_clusters] at found

/-- The word that is begun is the first. -/
theorem exists_wordsAfter (word : List Char) (clusters : List Cluster) :
    ∃ more others, wordsAfter word clusters = (word ++ more) :: others := by
  induction clusters generalizing word with
  | nil => exact ⟨[], [], by rw [wordsAfter, List.append_nil]⟩
  | cons cluster rest ih =>
      rw [wordsAfter]
      split
      · exact ⟨[], _, by rw [List.append_nil]⟩
      · split
        · exact ⟨cluster, _, rfl⟩
        · obtain ⟨more, others, begun⟩ := ih (word ++ cluster)
          exact ⟨cluster ++ more, others, by rw [begun, List.append_assoc]⟩

theorem exists_wordsAfter_cluster {cluster : Cluster} (word : List Char) (rest : List Cluster)
    (other : isWordSeparator cluster = false) :
    ∃ more others, wordsAfter word (cluster :: rest) = (word ++ cluster ++ more) :: others := by
  rw [wordsAfter, other]
  split
  · contradiction
  · split
    · exact ⟨[], _, by rw [List.append_nil]⟩
    · exact exists_wordsAfter (word ++ cluster) rest

theorem exists_clusters_cons (c : Char) (rest : List Char) :
    ∃ bound later, clusters (c :: rest) = (c :: bound) :: later := by
  have whole := flatten_clusters (c :: rest)
  cases split : clusters (c :: rest) with
  | nil =>
      rw [split] at whole
      contradiction
  | cons cluster others =>
      have nonempty : cluster ≠ [] := ne_nil_of_mem_clusters (by rw [split]; simp)
      obtain ⟨d, more, rfl⟩ := List.exists_cons_of_ne_nil nonempty
      rw [split, List.flatten_cons, List.cons_append, List.cons.injEq] at whole
      exact ⟨more, others, by rw [whole.1]⟩

theorem isWordSeparator_cons {c : Char} (upper : isUppercaseLetter c = true) (more : List Char) :
    isWordSeparator (c :: more) = false := by
  cases found : isWordSeparator (c :: more) with
  | false => rfl
  | true =>
      simp only [isWordSeparator, Bool.or_eq_true, beq_iff_eq, List.cons.injEq] at found
      rcases found with (⟨rfl, -⟩ | ⟨rfl, -⟩) | ⟨rfl, -⟩
      all_goals exact absurd upper (by decide +kernel)

theorem exists_words_of_isExported {name : String} (exported : isExported name = true) :
    ∃ word others, words name.toList = word :: others ∧ word ≠ [] := by
  obtain ⟨c, rest, spelled, upper, -⟩ := isExported_iff.mp exported
  obtain ⟨bound, later, split⟩ := exists_clusters_cons c rest
  obtain ⟨more, others, first⟩ :=
    exists_wordsAfter_cluster [] later (isWordSeparator_cons upper bound)
  refine ⟨[] ++ (c :: bound) ++ more, others, ?_, by simp⟩
  rw [words, spelled, split, first]

theorem snakeCase_ne_empty {name : String} (exported : isExported name = true) :
    snakeCase name ≠ "" := by
  obtain ⟨word, others, split, nonempty⟩ := exists_words_of_isExported exported
  have lowered := lowerText_ne_nil nonempty
  intro empty
  have none := congrArg String.toList empty
  rw [snakeCase, String.toList_ofList, split, List.map_cons] at none
  cases others with
  | nil => exact lowered (by simpa using none)
  | cons next later => simp at none

/-! A slash comes from nothing but a slash. -/

theorem ofNat_ne_slash {n : Nat} (above : 47 < n) : Char.ofNat n ≠ '/' := by
  by_cases valid : n.isValidChar
  · rw [Char.ofNat, dif_pos valid]
    intro same
    have value : n = 47 := congrArg Char.toNat same
    omega
  · rw [Char.ofNat, dif_neg valid]
    decide

theorem image_le_of_image? {run : CaseRun} {n m : Nat} (moved : run.image? n = some m) :
    run.image ≤ m := by
  unfold CaseRun.image? at moved
  split at moved
  · obtain rfl := Option.some.inj moved
    exact Nat.le_add_right _ _
  · contradiction

theorem slash_not_mem_lowerChar {c : Char} (other : c ≠ '/') : '/' ∉ lowerChar c := by
  have runs : ∀ run ∈ lowerRuns, 47 < run.image := by decide +kernel
  have expansions : ∀ expansion ∈ lowerExpansions, ∀ n ∈ expansion.2, 47 < n := by decide
  rcases lowerChar_cases c with ⟨run, member, n, image, moved⟩ | ⟨images, member, spelled⟩ | same
  · have above : 47 < n := Nat.lt_of_lt_of_le (runs run member) (image_le_of_image? image)
    rw [moved, List.mem_singleton]
    exact Ne.symm (ofNat_ne_slash above)
  · rw [spelled, List.mem_map]
    rintro ⟨n, inside, slash⟩
    exact ofNat_ne_slash (expansions _ member n inside) slash
  · rw [same, List.mem_singleton]
    exact Ne.symm other

theorem slash_not_mem_lowerText {text : List Char} (free : '/' ∉ text) : '/' ∉ lowerText text := by
  intro member
  rcases mem_lowerText member with ⟨c, inside, image⟩ | sigma | sigma
  · exact slash_not_mem_lowerChar (fun slash => free (slash ▸ inside)) image
  · exact absurd sigma (by decide)
  · exact absurd sigma (by decide)

theorem slash_not_mem_snakeCase {name : String} (free : '/' ∉ name.toList) :
    '/' ∉ (snakeCase name).toList := by
  rw [snakeCase, String.toList_ofList]
  intro member
  rcases mem_of_mem_intercalate member with underscore | ⟨piece, found, inside⟩
  · exact absurd underscore (by decide)
  · obtain ⟨word, split, rfl⟩ := List.mem_map.mp found
    exact slash_not_mem_lowerText (fun slash => free (mem_of_mem_words split slash)) inside

end SealedEnum.Text
