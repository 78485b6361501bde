import Mathlib.Data.List.Basic
import SealedEnum.Host.Layout
import SealedEnum.Proofs.Host.Readable

namespace SealedEnum

/-! Where there are no links, a path leads to the place its spelling tells, on every disk. -/

namespace Disk

variable {disk : Disk} {directory place next last : Place} {path first second : Path}
  {segment : String}

/-- One part of a path, followed without a look at what is there. -/
def follow (place : Place) (segment : String) : Place :=
  if segment = "." then place
  else if segment = ".." then place.dropLast
  else place ++ [segment]

/-- The place a path spells, seen from a directory. -/
def spelled (directory : Place) (path : Path) : Place :=
  placeBelow (start directory path) path

@[simp] theorem follow_dot (place : Place) : follow place "." = place :=
  if_pos rfl

theorem spelled_eq_foldl (directory : Place) (path : Path) :
    spelled directory path = (segments path).foldl follow (start directory path) :=
  rfl

theorem follow_of_step (steps : disk.step place segment = .ok next) :
    next = follow place segment := by
  obtain ⟨-, leads⟩ := step_eq_ok_iff.mp steps
  by_cases here : segment = "."
  · rw [if_pos here] at leads
    rw [follow, if_pos here, Except.ok.inj leads]
  by_cases above : segment = ".."
  · rw [if_neg here, if_pos above] at leads
    rw [follow, if_neg here, if_pos above, Except.ok.inj leads]
  · rw [if_neg here, if_neg above] at leads
    split at leads
    · contradiction
    · rw [follow, if_neg here, if_neg above, Except.ok.inj leads]

theorem foldl_follow_of_walk {segments : List String}
    (walks : disk.walk place segments = .ok last) : last = segments.foldl follow place := by
  induction segments generalizing place with
  | nil => exact (Except.ok.inj walks).symm
  | cons segment rest ih =>
      obtain ⟨next, steps, walks⟩ := walk_cons_eq_ok_iff.mp walks
      rw [List.foldl_cons, ← follow_of_step steps]
      exact ih walks

theorem spelled_of_resolve (resolves : disk.resolve directory path = .ok place) :
    place = spelled directory path := by
  obtain ⟨-, walks⟩ := pathError?_of_resolve resolves
  have dots : ∀ (slash : Bool) (place : Place),
      (if slash then ["."] else []).foldl follow place = place := by
    intro slash place
    cases slash <;> simp
  rw [foldl_follow_of_walk walks, List.foldl_append, dots, spelled_eq_foldl]

theorem foldl_follow_filter (segments : List String) (place : Place) :
    (segments.filter (· ≠ ".")).foldl follow place = segments.foldl follow place := by
  induction segments generalizing place with
  | nil => rfl
  | cons segment rest ih =>
      by_cases dot : segment = "."
      · subst dot
        rw [List.filter_cons_of_neg (by simp), List.foldl_cons, follow_dot]
        exact ih place
      · rw [List.filter_cons_of_pos (by simpa using dot), List.foldl_cons, List.foldl_cons]
        exact ih _

/-- Where each part goes one step down, the parts are the names behind the start. -/
theorem foldl_follow_of_names {segments : List String}
    (down : ∀ segment ∈ segments, segment ≠ "." ∧ segment ≠ "..") (place : Place) :
    segments.foldl follow place = place ++ segments := by
  induction segments generalizing place with
  | nil => simp
  | cons segment rest ih =>
      obtain ⟨⟨here, above⟩, later⟩ := List.forall_mem_cons.mp down
      rw [List.foldl_cons, ih later, follow, if_neg here, if_neg above, List.append_assoc]
      rfl

theorem spelled_eq_names (directory : Place) (path : Path) :
    spelled directory path =
      ((Path.names path.text.toList).map String.ofList).foldl follow (start directory path) := by
  rw [spelled_eq_foldl, ← foldl_follow_filter, filter_segments]

end Disk

namespace Path

variable {path first second : Path}

/-- Some part of the path goes back up. -/
def Climbs (path : Path) : Prop :=
  Component.up ∈ path.components

instance (path : Path) : Decidable path.Climbs :=
  inferInstanceAs (Decidable (_ ∈ _))

theorem not_climbs_iff : ¬ path.Climbs ↔ ['.', '.'] ∉ names path.text.toList := by
  have named : Component.up ∈ (names path.text.toList).map componentOf ↔
      ['.', '.'] ∈ names path.text.toList := by
    have up : Component.up = componentOf ['.', '.'] := rfl
    rw [up, List.mem_map_of_injective componentOf_injective]
  have notAnchor : Component.up ∉ anchorComponents (anchor path.text.toList) := by
    intro member
    exact Bool.noConfusion (isAnchor_of_mem_anchorComponents member)
  rw [Climbs, components_eq, List.mem_append, named, or_iff_right notAnchor]

end Path

namespace Disk

variable {directory : Place} {path first second : Path}

theorem spelled_of_not_climbs (level : ¬ path.Climbs) (directory : Place) :
    spelled directory path =
      start directory path ++ (Path.names path.text.toList).map String.ofList := by
  rw [spelled_eq_names]
  apply foldl_follow_of_names
  intro segment member
  obtain ⟨piece, named, rfl⟩ := List.mem_map.mp member
  have solid : Path.isVoid piece = false := by simpa using (List.mem_filter.mp named).2
  refine ⟨?_, ?_⟩
  · rintro dot
    have piece_eq : piece = ['.'] := String.ofList_injective dot
    simp [piece_eq, Path.isVoid] at solid
  · rintro dots
    have piece_eq : piece = ['.', '.'] := String.ofList_injective dots
    exact Path.not_climbs_iff.mp level (piece_eq ▸ named)

/-- Paths that differ in their spelling alone lead to one place. -/
theorem spelled_congr (same : first.components = second.components) (directory : Place) :
    spelled directory first = spelled directory second := by
  obtain ⟨anchor, names⟩ := Path.components_eq_iff.mp same
  have absolute : first.isAbsolute = second.isAbsolute := by
    rw [Bool.eq_iff_iff, Path.isAbsolute_iff_anchor, Path.isAbsolute_iff_anchor, anchor]
  rw [spelled_eq_names, spelled_eq_names, names, start, start, absolute]

/-- Paths that begin alike and never go back up lead to different places. -/
theorem components_eq_of_spelled
    (anchor : Path.anchor first.text.toList = Path.anchor second.text.toList)
    (level : ¬ first.Climbs) (other : ¬ second.Climbs)
    (same : spelled directory first = spelled directory second) :
    first.components = second.components := by
  have absolute : first.isAbsolute = second.isAbsolute := by
    rw [Bool.eq_iff_iff, Path.isAbsolute_iff_anchor, Path.isAbsolute_iff_anchor, anchor]
  rw [spelled_of_not_climbs level, spelled_of_not_climbs other, start, start, absolute] at same
  have names := (List.map_inj_right fun _ _ => @String.ofList_injective _ _).mp
    (List.append_cancel_left same)
  exact Path.components_eq_iff.mpr ⟨anchor, names⟩

end Disk

end SealedEnum
