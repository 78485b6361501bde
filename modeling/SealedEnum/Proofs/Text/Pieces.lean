import SealedEnum.Text.Lines

namespace SealedEnum.Text

/-! Text taken apart at a separator, and put together again. -/

theorem splitAt_ne_nil (separator : Char) (text : List Char) :
    splitAt separator text ≠ [] := by
  cases text with
  | nil => simp [splitAt]
  | cons c rest =>
      rw [splitAt]
      split
      · simp
      · split <;> simp

theorem splitAt_separator (separator : Char) (text : List Char) :
    splitAt separator (separator :: text) = [] :: splitAt separator text := by
  rw [splitAt]
  simp

theorem splitAt_cons {separator c : Char} (other : c ≠ separator) {text piece : List Char}
    {pieces : List (List Char)} (rest : splitAt separator text = piece :: pieces) :
    splitAt separator (c :: text) = (c :: piece) :: pieces := by
  rw [splitAt]
  simp [other, rest]

theorem splitAt_append (separator : Char) (first second : List Char) :
    splitAt separator (first ++ separator :: second) =
      splitAt separator first ++ splitAt separator second := by
  induction first with
  | nil => exact splitAt_separator separator second
  | cons c rest ih =>
      rw [List.cons_append]
      by_cases same : c = separator
      · subst c
        rw [splitAt_separator, splitAt_separator, ih, List.cons_append]
      · obtain ⟨piece, pieces, split⟩ :=
          List.exists_cons_of_ne_nil (splitAt_ne_nil separator rest)
        rw [split, List.cons_append] at ih
        rw [splitAt_cons same split, splitAt_cons same ih, List.cons_append]

theorem splitAt_of_not_mem {separator : Char} {text : List Char} (free : separator ∉ text) :
    splitAt separator text = [text] := by
  induction text with
  | nil => rfl
  | cons c rest ih =>
      have other : c ≠ separator := fun same => free (by simp [same])
      exact splitAt_cons other (ih fun member => free (List.mem_cons_of_mem c member))

theorem splitAt_intercalate {separator : Char} {pieces : List (List Char)}
    (nonempty : pieces ≠ []) (free : ∀ piece ∈ pieces, separator ∉ piece) :
    splitAt separator (List.intercalate [separator] pieces) = pieces := by
  induction pieces with
  | nil => contradiction
  | cons piece rest ih =>
      rw [List.forall_mem_cons] at free
      cases rest with
      | nil => rw [List.intercalate_singleton, splitAt_of_not_mem free.1]
      | cons next others =>
          rw [List.intercalate_cons_cons, List.append_assoc, List.singleton_append,
            splitAt_append, splitAt_of_not_mem free.1, ih (by simp) free.2]
          rfl

theorem not_mem_of_mem_splitAt {separator : Char} {text piece : List Char}
    (member : piece ∈ splitAt separator text) : separator ∉ piece := by
  induction text generalizing piece with
  | nil =>
      simp only [splitAt, List.mem_singleton] at member
      simp [member]
  | cons c rest ih =>
      by_cases same : c = separator
      · subst c
        rw [splitAt_separator, List.mem_cons] at member
        rcases member with rfl | later
        · simp
        · exact ih later
      · obtain ⟨first, others, split⟩ :=
          List.exists_cons_of_ne_nil (splitAt_ne_nil separator rest)
        rw [splitAt_cons same split, List.mem_cons] at member
        have free : separator ∉ first := ih (by simp [split])
        rcases member with rfl | later
        · simp [Ne.symm same, free]
        · exact ih (by simp [split, later])

theorem subset_dropReturn {line : List Char} {c : Char} (member : c ∈ dropReturn line) :
    c ∈ line := by
  unfold dropReturn at member
  split at member
  · exact List.dropLast_subset line member
  · exact member

theorem not_mem_of_mem_lines {text line : List Char} (member : line ∈ lines text) :
    '\n' ∉ line := by
  have terminated : line ∈ (splitAt '\n' text).dropLast.map dropReturn → '\n' ∉ line := by
    intro found newline
    obtain ⟨piece, original, rfl⟩ := List.mem_map.mp found
    exact not_mem_of_mem_splitAt (List.dropLast_subset _ original)
      (subset_dropReturn newline)
  simp only [lines] at member
  split at member
  · rename_i c rest last
    rcases List.mem_append.mp member with early | final
    · exact terminated early
    · rw [List.mem_singleton.mp final]
      exact not_mem_of_mem_splitAt (List.mem_of_getLast? last)
  · exact terminated member

theorem subset_trimEnd {text : List Char} {c : Char} (member : c ∈ trimEnd text) :
    c ∈ text := by
  rw [trimEnd, List.mem_reverse] at member
  exact List.mem_reverse.mp ((List.dropWhile_suffix _).subset member)

section Intercalate

variable {α : Type}

theorem intercalate_cons (separator first : List α) (rest : List (List α)) :
    List.intercalate separator (first :: rest) = first ++ rest.flatMap (separator ++ ·) := by
  induction rest generalizing first with
  | nil => simp
  | cons second others ih =>
      rw [List.intercalate_cons_cons, ih, List.flatMap_cons, List.append_assoc, List.append_assoc]

theorem intercalate_eq_drop (separator : List α) (parts : List (List α)) :
    List.intercalate separator parts =
      (parts.flatMap (separator ++ ·)).drop separator.length := by
  cases parts with
  | nil => simp
  | cons first rest => simp [intercalate_cons, List.append_assoc]

theorem mem_of_mem_intercalate {separator item : α} {parts : List (List α)}
    (member : item ∈ List.intercalate [separator] parts) :
    item = separator ∨ ∃ part ∈ parts, item ∈ part := by
  cases parts with
  | nil => simp at member
  | cons first rest =>
      rw [intercalate_cons, List.mem_append, List.mem_flatMap] at member
      rcases member with here | ⟨part, among, found⟩
      · exact .inr ⟨first, by simp, here⟩
      · rw [List.singleton_append, List.mem_cons] at found
        exact found.imp_right fun inside => ⟨part, List.mem_cons_of_mem first among, inside⟩

end Intercalate

end SealedEnum.Text
