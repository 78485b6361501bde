import SealedEnum.Proofs.Path.Spelling

namespace SealedEnum.Path

open SealedEnum.Text

/-! The parent of a path is the start of its text, with all its names but the last. -/

theorem names_withSlashes {pieces : List (List Char)} (free : ∀ piece ∈ pieces, '/' ∉ piece) :
    names (withSlashes pieces) = pieces.filter fun piece => !isVoid piece := by
  induction pieces with
  | nil => rfl
  | cons piece rest ih =>
      rw [List.forall_mem_cons] at free
      have first : names piece = [piece].filter fun piece => !isVoid piece := by
        rw [names, splitAt_of_not_mem free.1]
      cases rest with
      | nil =>
          have alone : withSlashes [piece] = piece := by simp [withSlashes]
          rw [alone, first]
      | cons next later =>
          rw [withSlashes_cons, below_eq _ (by simp), names_append, ih free.2, first,
            ← List.filter_append]
          rfl

theorem isPrefix_withSlashes {kept pieces : List (List Char)} (start : kept <+: pieces) :
    withSlashes kept <+: withSlashes pieces := by
  obtain ⟨more, rfl⟩ := start
  cases kept with
  | nil => exact List.nil_prefix
  | cons piece rest =>
      rw [List.cons_append, withSlashes_cons, withSlashes_cons, below, below, List.flatMap_append,
        ← List.append_assoc]
      exact List.prefix_append _ _

theorem anchor_append_pieces (text : List Char) :
    anchor text ++ withSlashes (pieces text) = text := by
  rw [pieces, withSlashes_splitAt]
  rcases start_cases text with ⟨rest, rfl⟩ | rfl | ⟨rest, rfl⟩ | none
  · rfl
  · rfl
  · rfl
  · rw [none]
    rfl

theorem isPrefix_anchor_append {text : List Char} {kept : List (List Char)}
    (start : kept <+: pieces text) : anchor text ++ withSlashes kept <+: text := by
  have longer := (List.prefix_append_right_inj (anchor text)).mpr (isPrefix_withSlashes start)
  rwa [anchor_append_pieces] at longer

theorem names_dot_withSlashes {kept rest : List (List Char)} (start : kept <+: [] :: rest) :
    names ('.' :: withSlashes kept) = names (withSlashes kept) := by
  rcases List.prefix_cons_iff.mp start with rfl | ⟨more, rfl, -⟩
  · rfl
  · cases more with
    | nil => rfl
    | cons next later =>
        rw [withSlashes_cons, below_eq [] (by simp), List.nil_append, names_slash, names_dot_slash]

theorem names_anchor_append {text : List Char} {kept : List (List Char)}
    (start : kept <+: pieces text) :
    names (anchor text ++ withSlashes kept) = kept.filter fun piece => !isVoid piece := by
  have free : ∀ piece ∈ kept, '/' ∉ piece := fun piece member =>
    not_mem_of_mem_splitAt (start.subset member)
  rw [← names_withSlashes free]
  rcases start_cases text with ⟨rest, rfl⟩ | rfl | ⟨rest, rfl⟩ | none
  · exact names_slash _
  · exact names_dot_withSlashes start
  · exact names_dot_withSlashes start
  · rw [none]
    rfl

theorem filter_dropWhile_isVoid (pieces : List (List Char)) :
    ((pieces.dropWhile isVoid).filter fun piece => !isVoid piece) =
      pieces.filter fun piece => !isVoid piece := by
  induction pieces with
  | nil => rfl
  | cons piece rest ih =>
      rw [List.dropWhile_cons]
      split
      · rename_i void
        rw [ih, List.filter_cons_of_neg (by simp [void])]
      · rfl

/-- Of a path with names, the parent is spelled by the pieces before the last name. -/
theorem exists_parent?_eq {path : Path} (named : names path.text.toList ≠ []) :
    ∃ kept, kept <+: pieces path.text.toList ∧
      (kept.filter fun piece => !isVoid piece) = (names path.text.toList).dropLast ∧
      path.parent? = some ⟨String.ofList (anchor path.text.toList ++ withSlashes kept)⟩ := by
  have backwards : (((pieces path.text.toList).reverse.dropWhile isVoid).filter fun piece =>
      !isVoid piece).reverse = names path.text.toList := by
    rw [filter_dropWhile_isVoid, List.filter_reverse, List.reverse_reverse, filter_pieces]
  unfold parent?
  dsimp only
  have shorter : (pieces path.text.toList).reverse.dropWhile isVoid <:+
      (pieces path.text.toList).reverse := List.dropWhile_suffix isVoid
  have stops := List.head?_dropWhile_not isVoid (pieces path.text.toList).reverse
  cases ends : (pieces path.text.toList).reverse.dropWhile isVoid with
  | nil =>
      rw [ends] at backwards
      exact absurd backwards.symm named
  | cons last before =>
      rw [ends] at backwards shorter stops
      have present : isVoid last = false := by simpa using stops
      refine ⟨(before.dropWhile isVoid).reverse, ?_, ?_, rfl⟩
      · rw [← List.reverse_suffix, List.reverse_reverse]
        exact (List.dropWhile_suffix isVoid).trans ((List.suffix_cons last before).trans shorter)
      · rw [List.filter_reverse, filter_dropWhile_isVoid, ← backwards,
          List.filter_cons_of_pos (by simp [present]), List.reverse_cons, List.dropLast_concat]

/-- The directory a path lies in starts where the path does, is spelled no longer than the path, and
has its names but the last. -/
structure Above (path above : Path) : Prop where
  nonempty : above.isEmpty = false
  absolute : above.isAbsolute = path.isAbsolute
  names : names above.text.toList = (names path.text.toList).dropLast
  letters : ∀ c ∈ above.text.toList, c = '.' ∨ c ∈ path.text.toList
  short : above.text.utf8ByteSize ≤ path.text.utf8ByteSize

theorem above_of_prefix {path above : Path} (start : above.text.toList <+: path.text.toList)
    (nonempty : above.isEmpty = false)
    (fewer : Path.names above.text.toList = (Path.names path.text.toList).dropLast) :
    path.Above above where
  nonempty := nonempty
  absolute := by
    obtain ⟨more, whole⟩ := start
    have letters : above.text.toList ≠ [] := by simpa [isEmpty] using nonempty
    obtain ⟨c, rest, first⟩ := List.exists_cons_of_ne_nil letters
    rw [isAbsolute, isAbsolute, ← whole, first, List.cons_append, startsAtRoot_cons,
      startsAtRoot_cons]
  names := fewer
  letters := fun _ member => .inr (start.subset member)
  short := by
    obtain ⟨more, whole⟩ := start
    have longer : path.text = above.text ++ String.ofList more := by
      rw [← String.toList_inj, String.toList_append, String.toList_ofList, whole]
    rw [longer, String.utf8ByteSize_append]
    exact Nat.le_add_right _ _

theorem above_here {path : Path} (named : Path.names path.text.toList ≠ [])
    (relative : anchor path.text.toList = []) (alone : (Path.names path.text.toList).dropLast = []) :
    path.Above ⟨"."⟩ where
  nonempty := rfl
  absolute := by
    have away : path.isAbsolute = false := by
      cases root : path.isAbsolute with
      | false => rfl
      | true =>
          rw [isAbsolute] at root
          simp [anchor, root] at relative
    rw [away]
    rfl
  names := alone.symm
  letters := by simp
  short := by
    have spelled : path.text ≠ "" := by
      intro empty
      exact named (by simp [empty])
    exact Nat.pos_of_ne_zero (mt String.utf8ByteSize_eq_zero_iff.mp spelled)

theorem exists_directory? {path : Path} (named : names path.text.toList ≠ []) :
    ∃ above, path.directory? = some above ∧ path.Above above := by
  obtain ⟨kept, start, fewer, lies⟩ := exists_parent?_eq named
  have prefixed := isPrefix_anchor_append start
  have remaining := (names_anchor_append start).trans fewer
  rw [directory?, lies, Option.map_some]
  split
  · rename_i empty
    have none : anchor path.text.toList ++ withSlashes kept = [] := by
      simpa [isEmpty] using empty
    have alone : (Path.names path.text.toList).dropLast = [] := by
      rw [← remaining, none]
      rfl
    exact ⟨_, rfl, above_here named (List.append_eq_nil_iff.mp none).1 alone⟩
  · rename_i nonempty
    refine ⟨_, rfl, above_of_prefix ?_ (by simpa using nonempty) ?_⟩
    · rwa [String.toList_ofList]
    · rwa [String.toList_ofList]

end SealedEnum.Path
