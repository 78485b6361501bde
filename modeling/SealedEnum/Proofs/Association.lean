namespace SealedEnum.Association

/-! Values listed by key. The value of a key is replaced where it stands. -/

variable {κ ν : Type} [BEq κ] [LawfulBEq κ] [DecidableEq κ] {key other : κ}

def update (entries : List (κ × ν)) (key : κ) (value : ν) : List (κ × ν) :=
  if (entries.lookup key).isSome then
    entries.map fun old => if old.1 = key then (key, value) else old
  else entries ++ [(key, value)]

theorem lookup_replace_of_ne (different : other ≠ key) (value : ν) (entries : List (κ × ν)) :
    (entries.map fun old => if old.1 = key then (key, value) else old).lookup other =
      entries.lookup other := by
  induction entries with
  | nil => rfl
  | cons old rest ih =>
      obtain ⟨found, held⟩ := old
      rw [List.map_cons]
      split
      · rename_i same
        simp only at same
        subst found
        rw [List.lookup_cons, List.lookup_cons, ih, beq_eq_false_iff_ne.mpr different]
      · rw [List.lookup_cons, List.lookup_cons, ih]

theorem lookup_replace_self (value : ν) {entries : List (κ × ν)}
    (present : (entries.lookup key).isSome = true) :
    (entries.map fun old => if old.1 = key then (key, value) else old).lookup key =
      some value := by
  induction entries with
  | nil => contradiction
  | cons old rest ih =>
      obtain ⟨found, held⟩ := old
      rw [List.map_cons]
      split
      · exact List.lookup_cons_self
      · rename_i different
        have other : (key == found) = false := beq_eq_false_iff_ne.mpr (Ne.symm different)
        rw [List.lookup_cons, other] at present
        rw [List.lookup_cons, other]
        exact ih present

theorem lookup_update (entries : List (κ × ν)) (key : κ) (value : ν) (other : κ) :
    (update entries key value).lookup other =
      if other = key then some value else entries.lookup other := by
  unfold update
  split
  · rename_i present
    by_cases same : other = key
    · rw [if_pos same, same, lookup_replace_self value present]
    · rw [if_neg same, lookup_replace_of_ne same]
  · rename_i missing
    have absent : entries.lookup key = none := Option.not_isSome_iff_eq_none.mp missing
    by_cases same : other = key
    · rw [if_pos same, same, List.lookup_append, absent, List.lookup_cons_self, Option.none_or]
    · rw [if_neg same, List.lookup_append, List.lookup_cons, beq_eq_false_iff_ne.mpr same,
        List.lookup_nil, Option.or_none]

theorem mem_update {entries : List (κ × ν)} {value : ν} {old : κ × ν}
    (member : old ∈ update entries key value) :
    old = (key, value) ∨ (old ∈ entries ∧ old.1 ≠ key) := by
  unfold update at member
  split at member
  · obtain ⟨original, found, rfl⟩ := List.mem_map.mp member
    split
    · exact .inl rfl
    · rename_i different
      exact .inr ⟨found, different⟩
  · rename_i missing
    have absent : entries.lookup key = none := Option.not_isSome_iff_eq_none.mp missing
    rcases List.mem_append.mp member with earlier | added
    · have different := bne_iff_ne.mp (List.lookup_eq_none_iff.mp absent old earlier)
      exact .inr ⟨earlier, different.symm⟩
    · exact .inl (List.mem_singleton.mp added)

end SealedEnum.Association
