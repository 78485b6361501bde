import SealedEnum.Unicode.Ranges

namespace SealedEnum.Unicode

/-! One set of code points inside another, decided in one pass over the ranges of both. -/

namespace Ranges

/-- Each range of the second list lies in one of the first, which come in the same order. -/
def covers : Ranges → Ranges → Bool
  | [], inner => inner.isEmpty
  | (low, high) :: outer, inner =>
      match inner.dropWhile fun range => low ≤ range.1 && range.2 ≤ high with
      | [] => true
      | (first, last) :: rest =>
          low ≤ high && high < first && covers outer ((first, last) :: rest)

theorem contains_dropWhile {inner : Ranges} {n : Nat} (inside : Nat × Nat → Bool)
    (found : inner.contains n = true) :
    (∃ range, inside range = true ∧ range.1 ≤ n ∧ n ≤ range.2) ∨
      Ranges.contains (inner.dropWhile inside) n = true := by
  induction inner with
  | nil => exact .inr found
  | cons range rest ih =>
      obtain ⟨first, last⟩ := range
      by_cases member : inside (first, last) = true
      · simp only [contains] at found
        split at found
        · contradiction
        · rename_i started
          simp only [Bool.or_eq_true, decide_eq_true_eq] at found
          rcases found with here | later
          · exact .inl ⟨(first, last), member, Nat.le_of_not_lt started, here⟩
          · simpa [member] using ih later
      · exact .inr (by simpa [List.dropWhile_cons, member] using found)

theorem le_of_contains_cons {first last n : Nat} {rest : Ranges}
    (found : Ranges.contains ((first, last) :: rest) n = true) : first ≤ n := by
  simp only [contains] at found
  split at found
  · contradiction
  · omega

theorem contains_of_covers {outer inner : Ranges} {n : Nat}
    (covered : covers outer inner = true) (found : inner.contains n = true) :
    outer.contains n = true := by
  induction outer generalizing inner with
  | nil =>
      have empty : inner = [] := by simpa [covers] using covered
      subst inner
      exact found
  | cons range outer ih =>
      obtain ⟨low, high⟩ := range
      simp only [covers] at covered
      rcases contains_dropWhile (fun range => low ≤ range.1 && range.2 ≤ high) found with
        ⟨⟨first, last⟩, inside, above, below⟩ | later
      · simp only [Bool.and_eq_true, decide_eq_true_eq] at inside above below
        have started : ¬ n < low := by omega
        have ended : n ≤ high := by omega
        simp [contains, started, ended]
      · split at covered
        · rename_i empty
          rw [empty] at later
          exact absurd later (by simp [contains])
        · rename_i first last rest remaining
          rw [remaining] at later
          simp only [Bool.and_eq_true, decide_eq_true_eq] at covered
          have above := le_of_contains_cons later
          have started : ¬ n < low := by omega
          simp [contains, started, ih covered.2 later]

end Ranges

end SealedEnum.Unicode
