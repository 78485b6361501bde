import SealedEnum.Host.Session
import SealedEnum.Proofs.Host.Disk

namespace SealedEnum

/-! Temporary files: their names are new to the directory they are in. -/

theorem toList_temporaryName (attempt : Nat) :
    (temporaryName attempt).toList =
      '.' :: 't' :: 'm' :: 'p' :: Nat.toDigits 10 (100000 + attempt) := by
  simp [temporaryName, toString, Nat.toList_repr]

theorem temporaryName_injective {first second : Nat}
    (same : temporaryName first = temporaryName second) : first = second := by
  have digits := congrArg String.toList same
  simp only [toList_temporaryName, List.cons.injEq, true_and] at digits
  have numbers := congrArg (fun text => Nat.ofDigitChars 10 text 0) digits
  rw [Nat.ofDigitChars_toDigits (by decide) (by decide),
    Nat.ofDigitChars_toDigits (by decide) (by decide)] at numbers
  omega

namespace Disk

theorem le_length_of_taken {disk : Disk} {parent : Place} {count : Nat}
    (taken : ∀ attempt < count, disk.lookup (parent ++ [temporaryName attempt]) ≠ none) :
    count ≤ disk.entries.length := by
  have places : ((List.range count).map fun attempt => parent ++ [temporaryName attempt]) ⊆
      disk.entries.map Prod.fst := by
    intro place member
    obtain ⟨attempt, tried, rfl⟩ := List.mem_map.mp member
    have found := taken attempt (List.mem_range.mp tried)
    rw [ne_eq, lookup_eq_none_iff] at found
    simpa using found
  have distinct : ((List.range count).map fun attempt =>
      parent ++ [temporaryName attempt]).Nodup := by
    refine List.Pairwise.map _ (fun first second different same => different ?_) List.nodup_range
    have names : [temporaryName first] = [temporaryName second] := List.append_cancel_left same
    exact temporaryName_injective (List.singleton_inj.mp names)
  have fits := distinct.length_le_of_subset places
  rwa [List.length_map, List.length_map, List.length_range] at fits

theorem exists_freshName (disk : Disk) (parent : Place) :
    ∃ attempt, disk.freshName parent = temporaryName attempt ∧
      disk.lookup (parent ++ [temporaryName attempt]) = none := by
  unfold freshName
  dsimp only
  cases found : (List.range (disk.entries.length + 1)).find? fun attempt =>
      (disk.lookup (parent ++ [temporaryName attempt])).isNone with
  | some attempt =>
      exact ⟨attempt, rfl, by simpa using List.find?_some found⟩
  | none =>
      -- One more name is tried than there are entries to take it.
      have taken : ∀ attempt < disk.entries.length + 1,
          disk.lookup (parent ++ [temporaryName attempt]) ≠ none := by
        intro attempt early
        simpa using List.find?_eq_none.mp found attempt (List.mem_range.mpr early)
      have fits := le_length_of_taken taken
      omega

end Disk

end SealedEnum
