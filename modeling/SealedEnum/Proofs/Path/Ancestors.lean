import Mathlib.Data.List.TakeWhile
import SealedEnum.Proofs.Path.Parent

namespace SealedEnum.Path

/-! The way from a path up to one without a parent: each step takes the last component away, and
only the root or nothing is left in the end. -/

variable {path above top : Path} {text : List Char} {kept : List (List Char)} {passed : List Path}

theorem withSlashes_append {first second : List (List Char)} (some : first ≠ [])
    (more : second ≠ []) :
    withSlashes (first ++ second) = withSlashes first ++ '/' :: withSlashes second := by
  obtain ⟨piece, rest, rfl⟩ := List.exists_cons_of_ne_nil some
  have longer : below piece (rest ++ second) = below (below piece rest) second := by
    simp [below]
  rw [List.cons_append, withSlashes_cons, withSlashes_cons, longer, below_eq _ more]

theorem anchor_anchor (text : List Char) : anchor (anchor text) = anchor text := by
  rcases anchor_cases text with found | found | found <;> rw [found] <;> rfl

theorem anchor_anchor_append (start : kept <+: pieces text) :
    anchor (anchor text ++ withSlashes kept) = anchor text := by
  obtain ⟨more, whole⟩ := start
  have spelled := anchor_append_pieces text
  by_cases none : kept = []
  · rw [none]
    simpa [withSlashes] using anchor_anchor text
  by_cases last : more = []
  · rw [last, List.append_nil] at whole
    rw [whole, spelled]
  rw [← whole, withSlashes_append none last, ← List.append_assoc] at spelled
  by_cases empty : anchor text ++ withSlashes kept = []
  · rw [empty, (List.append_eq_nil_iff.mp empty).1]
    rfl
  · rw [← anchor_slash empty, ← anchor_append_slash _ (withSlashes more), spelled]

theorem componentOf_ne_root (piece : List Char) : componentOf piece ≠ .root := by
  intro same
  have anchored := isAnchor_componentOf piece
  rw [same] at anchored
  contradiction

theorem parent?_of_unnamed (unnamed : names path.text.toList = []) :
    path.parent? = if startsHere path.text.toList then some ⟨""⟩ else none := by
  have void : (pieces path.text.toList).reverse.dropWhile isVoid = [] := by
    rw [← filter_pieces, List.filter_eq_nil_iff] at unnamed
    rw [List.dropWhile_eq_nil_iff]
    intro piece member
    simpa using unnamed piece (List.mem_reverse.mp member)
  simp only [parent?, void]

theorem components_of_unnamed (unnamed : names path.text.toList = []) :
    path.components = anchorComponents (anchor path.text.toList) := by
  rw [components_eq, unnamed, List.map_nil, List.append_nil]

/-- The parent of a path is the beginning of its text without the last component. A root is no
component that can be taken away. -/
theorem exists_components_eq (lies : path.parent? = some above) :
    above.text.toList <+: path.text.toList ∧
      ∃ last, last ≠ Component.root ∧ path.components = above.components ++ [last] := by
  by_cases unnamed : names path.text.toList = []
  · rw [parent?_of_unnamed unnamed] at lies
    split at lies
    · rename_i here
      obtain rfl := Option.some.inj lies
      have anchored : anchor path.text.toList = ['.'] := by
        unfold startsHere at here
        split at here
        · rename_i spelled
          rw [spelled]
          rfl
        · rename_i rest spelled
          rw [spelled]
          rfl
        · contradiction
      refine ⟨List.nil_prefix, .here, by simp, ?_⟩
      rw [components_of_unnamed unnamed, anchored]
      rfl
    · contradiction
  · obtain ⟨kept, start, fewer, found⟩ := exists_parent?_eq unnamed
    obtain rfl := Option.some.inj (found.symm.trans lies)
    refine ⟨?_, componentOf ((names path.text.toList).getLast unnamed), componentOf_ne_root _, ?_⟩
    · rw [String.toList_ofList]
      exact isPrefix_anchor_append start
    · rw [components_eq, components_eq, String.toList_ofList, anchor_anchor_append start,
        names_anchor_append start, fewer, List.append_assoc, ← List.map_singleton,
        ← List.map_append, List.dropLast_concat_getLast]

/-- From a path up to itself or an ancestor, with what is passed on the way. -/
inductive Ascends : Path → List Path → Path → Prop where
  | stay (path : Path) : Ascends path [] path
  | up {path above top : Path} {passed : List Path} (lies : path.parent? = some above)
      (rest : Ascends above passed top) : Ascends path (path :: passed) top

theorem Ascends.components_eq (ascends : path.Ascends passed top) :
    ∃ below, path.components = top.components ++ below ∧ below.length = passed.length ∧
      Component.root ∉ below := by
  induction ascends with
  | stay path => exact ⟨[], by simp⟩
  | up lies _ ih =>
      obtain ⟨below, split, count, proper⟩ := ih
      obtain ⟨_, last, notRoot, whole⟩ := exists_components_eq lies
      refine ⟨below ++ [last], by rw [whole, split, List.append_assoc], by simp [count], ?_⟩
      simp [proper, notRoot.symm]

end SealedEnum.Path
