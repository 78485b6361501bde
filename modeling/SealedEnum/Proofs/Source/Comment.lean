import Mathlib.Data.List.DropRight
import SealedEnum.Proofs.Source.Lines

namespace SealedEnum.Source

open SealedEnum.Text SealedEnum.Unicode

/-! Comment blocks that quote a comment block: it grows line by line. -/

theorem trimEnd_eq (text : List Char) : trimEnd text = text.rdropWhile isBlank :=
  rfl

theorem trimEnd_append {first second : List Char} (solid : isAllBlank second = false) :
    trimEnd (first ++ second) = first ++ trimEnd second := by
  have kept : (second.reverse.dropWhile isBlank).isEmpty = false := by
    rw [List.isEmpty_eq_false_iff, ne_eq, List.dropWhile_eq_nil_iff]
    simpa [isAllBlank] using solid
  rw [trimEnd, trimEnd, List.reverse_append, List.dropWhile_append, kept]
  simp

theorem trimEnd_trimEnd (text : List Char) : trimEnd (trimEnd text) = trimEnd text :=
  List.rdropWhile_idempotent isBlank text

theorem not_isAllBlank_trimEnd {text : List Char} (nonempty : trimEnd text ≠ []) :
    isAllBlank (trimEnd text) = false := by
  rw [← trimEnd_trimEnd, trimEnd_eq, ne_eq, List.rdropWhile_eq_nil_iff] at nonempty
  simpa [isAllBlank] using nonempty

theorem dropReturn_of_trimEnd_eq {line : List Char} (trimmed : trimEnd line = line) :
    dropReturn line = line := by
  have ends : line.getLast? ≠ some '\r' := by
    intro last
    obtain ⟨front, rfl⟩ := List.getLast?_eq_some_iff.mp last
    have solid := List.rdropWhile_eq_self_iff.mp trimmed (by simp)
    rw [List.getLast_concat] at solid
    exact absurd solid (by decide)
  rw [dropReturn, if_neg ends]

theorem trimEnd_commentLine (line : List Char) :
    trimEnd (commentLine line) = commentLine line := by
  unfold commentLine
  split
  · decide
  · rename_i c rest trimmed
    have solid : isAllBlank (trimEnd line) = false :=
      not_isAllBlank_trimEnd (by simp [trimmed])
    rw [trimmed] at solid
    change trimEnd (['/', '/', ' '] ++ c :: rest) = _
    rw [trimEnd_append solid, ← trimmed, trimEnd_trimEnd, trimmed]
    rfl

/-- A comment line that is commented once more. -/
theorem commentLine_commentLine (line : List Char) :
    commentLine (commentLine line) = '/' :: '/' :: ' ' :: commentLine line := by
  rw [commentLine, trimEnd_commentLine]
  split
  · rename_i nothing
    unfold commentLine at nothing
    split at nothing <;> contradiction
  · rename_i same
    rw [same]

theorem lines_append {line rest : List Char} (whole : '\n' ∉ line) :
    lines (line ++ '\n' :: rest) = dropReturn line :: lines rest := by
  obtain ⟨piece, pieces, split⟩ := List.exists_cons_of_ne_nil (splitAt_ne_nil '\n' rest)
  simp only [lines, splitAt_append, splitAt_of_not_mem whole, split, List.singleton_append,
    List.dropLast_cons_cons, List.map_cons, List.getLast?_cons_cons]
  split <;> rfl

theorem lines_flatMap_append {block : List (List Char)} (whole : ∀ line ∈ block, '\n' ∉ line)
    (rest : List Char) :
    lines (block.flatMap (· ++ ['\n']) ++ rest) = block.map dropReturn ++ lines rest := by
  induction block with
  | nil => rfl
  | cons line others ih =>
      rw [List.forall_mem_cons] at whole
      rw [List.flatMap_cons, List.append_assoc, List.append_assoc, List.singleton_append,
        lines_append whole.1, ih whole.2]
      rfl

theorem exists_commentLine {text : String} {block : List String}
    (made : commentBlock text = some block) :
    ∀ line ∈ block, ∃ source, line.toList = commentLine source := by
  simp only [commentBlock] at made
  split at made
  · contradiction
  · cases made
    intro line member
    obtain ⟨characters, found, rfl⟩ := List.mem_map.mp member
    rw [String.toList_ofList]
    rcases List.mem_append.mp found with inside | last
    · obtain ⟨source, -, rfl⟩ := List.mem_map.mp inside
      exact ⟨source, rfl⟩
    · exact ⟨[], List.mem_singleton.mp last⟩

def quotedLine (line : String) : String :=
  "// " ++ line

/-- The comment block of a text that starts with a comment block quotes that block line by line. -/
theorem commentBlock_append {text : String} {block : List String} {rest : List Char}
    (quoting : String) (made : commentBlock text = some block) (solid : isAllBlank rest = false)
    (starts : quoting.toList = (block.map String.toList).flatMap (· ++ ['\n']) ++ rest) :
    ∃ others, commentBlock quoting = some (block.map quotedLine ++ others ++ ["//"]) := by
  have whole : ∀ line ∈ block.map String.toList, '\n' ∉ line :=
    List.forall_mem_map.mpr (whole_of_mem_commentBlock made)
  have visible : isAllBlank quoting.toList = false := by
    rw [isAllBlank] at solid
    rw [starts, isAllBlank, List.all_append, solid, Bool.and_false]
  have quotes : ((block.map String.toList).map dropReturn).map commentLine =
      (block.map quotedLine).map String.toList := by
    rw [List.map_map, List.map_map, List.map_map]
    refine List.map_congr_left fun line member => ?_
    obtain ⟨source, spelled⟩ := exists_commentLine made line member
    simp only [Function.comp_apply, spelled, quotedLine, String.toList_append]
    rw [dropReturn_of_trimEnd_eq (trimEnd_commentLine source), commentLine_commentLine]
    rfl
  refine ⟨((lines (trimEnd rest)).map commentLine).map String.ofList, ?_⟩
  simp only [commentBlock, visible, Bool.false_eq_true, if_false]
  rw [starts, trimEnd_append solid, lines_flatMap_append whole]
  simp only [List.map_append, quotes]
  simp [Function.comp_def]

end SealedEnum.Source
