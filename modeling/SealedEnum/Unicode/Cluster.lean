import SealedEnum.Unicode.ClusterTable

namespace SealedEnum.Unicode

/-!
User-perceived characters: a character together with the marks, joiners and openers bound to it.
Sequences that bind only characters without case, such as syllable blocks and flags, are left apart;
no rule about case can tell the difference.
-/

private def isControl (c : Char) : Bool :=
  clusterControls.contains c.toNat

private def isPictograph (c : Char) : Bool :=
  pictographs.contains c.toNat

/-- Marks and skin tones may stand between a pictograph and the joiner after it. -/
private def isPictographMark (c : Char) : Bool :=
  graphemeExtenders.contains c.toNat || (0x1F3FB ≤ c.toNat && c.toNat ≤ 0x1F3FF)

private def endsInPictograph (reversed : List Char) : Bool :=
  match reversed.dropWhile isPictographMark with
  | [] => false
  | c :: _ => isPictograph c

/-- Whether a character belongs to the cluster before it, which is given back to front. -/
def joinsCluster : List Char → Char → Bool
  | [], _ => true
  | last :: before, next =>
      if isControl last || isControl next then false
      else
        clusterExtenders.contains next.toNat
          || clusterOpeners.contains last.toNat
          || (last == '\u200d' && isPictograph next && endsInPictograph before)

private def clustersAfter (reversed : List Char) : List Char → List (List Char)
  | [] => if reversed.isEmpty then [] else [reversed.reverse]
  | c :: rest =>
      if joinsCluster reversed c then clustersAfter (c :: reversed) rest
      else reversed.reverse :: clustersAfter [c] rest

def clusters (text : List Char) : List (List Char) :=
  clustersAfter [] text

private theorem flatten_clustersAfter (reversed text : List Char) :
    (clustersAfter reversed text).flatten = reversed.reverse ++ text := by
  induction text generalizing reversed with
  | nil => cases reversed <;> simp [clustersAfter]
  | cons c rest ih =>
      rw [clustersAfter]
      split
      · rw [ih, List.reverse_cons, List.append_assoc, List.singleton_append]
      · rw [List.flatten_cons, ih, List.reverse_singleton, List.singleton_append]

/-- No character is lost between the clusters. -/
theorem flatten_clusters (text : List Char) : (clusters text).flatten = text :=
  flatten_clustersAfter [] text

private theorem ne_nil_of_mem_clustersAfter {reversed text cluster : List Char}
    (member : cluster ∈ clustersAfter reversed text) : cluster ≠ [] := by
  induction text generalizing reversed with
  | nil => cases reversed <;> simp_all [clustersAfter]
  | cons c rest ih =>
      rw [clustersAfter] at member
      split at member
      · exact ih member
      · rename_i apart
        rcases List.mem_cons.mp member with rfl | later
        · -- A character joins the cluster before it where there is none.
          rintro empty
          simp [List.reverse_eq_nil_iff.mp empty, joinsCluster] at apart
        · exact ih later

theorem ne_nil_of_mem_clusters {text cluster : List Char} (member : cluster ∈ clusters text) :
    cluster ≠ [] :=
  ne_nil_of_mem_clustersAfter member

end SealedEnum.Unicode
