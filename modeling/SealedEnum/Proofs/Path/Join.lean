import SealedEnum.Proofs.Path.Parent

namespace SealedEnum.Path

open SealedEnum.Text

/-! A path joined to a directory goes on where the directory ends. -/

variable {directory path : Path} {name : String}

theorem join_of_isAbsolute (absolute : path.isAbsolute = true) : directory.join path = path := by
  rw [join, if_pos absolute]

theorem toList_join_of_slash (relative : path.isAbsolute = false) {before : List Char}
    (spelled : directory.text.toList = before ++ ['/']) :
    (directory.join path).text.toList = before ++ '/' :: path.text.toList := by
  rw [join, if_neg (by simp [relative]), if_pos (by simp [spelled])]
  simp [spelled]

theorem toList_join_of_name (relative : path.isAbsolute = false)
    (nonempty : directory.isEmpty = false) (unended : directory.text.toList.getLast? ≠ some '/') :
    (directory.join path).text.toList = directory.text.toList ++ '/' :: path.text.toList := by
  rw [join, if_neg (by simp [relative]), if_neg (by simp [nonempty, unended])]
  simp

theorem isPrefix_toList_join (directory : Path) (relative : path.isAbsolute = false) :
    directory.text.toList <+: (directory.join path).text.toList := by
  rw [join, if_neg (by simp [relative])]
  split
  · simp
  · exact ⟨'/' :: path.text.toList, by simp⟩

/-- Up to the slash it is joined behind, a directory keeps its trace. -/
theorem exists_toList_join (nonempty : directory.isEmpty = false) :
    ∃ before, SameTrace (before ++ ['/']) directory.text.toList ∧
      ∀ path : Path, path.isAbsolute = false →
        (directory.join path).text.toList = before ++ '/' :: path.text.toList := by
  by_cases slash : directory.text.toList.getLast? = some '/'
  · obtain ⟨before, spelled⟩ := List.getLast?_eq_some_iff.mp slash
    exact ⟨before, spelled ▸ ⟨rfl, rfl⟩, fun _ relative => toList_join_of_slash relative spelled⟩
  · have letters : directory.text.toList ≠ [] := by simpa [isEmpty] using nonempty
    exact ⟨_, sameTrace_slash letters, fun _ relative =>
      toList_join_of_name relative nonempty slash⟩

theorem names_join (relative : path.isAbsolute = false) (nonempty : directory.isEmpty = false) :
    names (directory.join path).text.toList =
      names directory.text.toList ++ names path.text.toList := by
  obtain ⟨before, same, joined⟩ := exists_toList_join nonempty
  rw [joined path relative, names_append, ← same.names, names_append, names_nil, List.append_nil]

theorem components_join (relative : path.isAbsolute = false)
    (nonempty : directory.isEmpty = false) :
    (directory.join path).components =
      directory.components ++ (names path.text.toList).map componentOf := by
  obtain ⟨before, same, joined⟩ := exists_toList_join nonempty
  rw [components_eq, components_eq, names_join relative nonempty, joined path relative,
    anchor_append_slash, same.anchor, List.map_append, List.append_assoc]

/-! Some texts name an entry of a directory and no other place. -/

structure Plain (name : String) : Prop where
  nonempty : name ≠ ""
  notHere : name ≠ "."
  notUp : name ≠ ".."
  single : '/' ∉ name.toList

namespace Plain

theorem isAbsolute_eq (plain : Plain name) : isAbsolute ⟨name⟩ = false := by
  cases root : isAbsolute ⟨name⟩ with
  | false => rfl
  | true =>
      unfold isAbsolute startsAtRoot at root
      split at root
      · rename_i text
        exact absurd (by simp [text]) plain.single
      · contradiction

theorem names_eq (plain : Plain name) : names name.toList = [name.toList] := by
  have solid : isVoid name.toList = false := by
    have dot : name.toList ≠ ['.'] := fun same => plain.notHere (String.toList_injective same)
    simp [isVoid, plain.nonempty, dot]
  rw [names, splitAt_of_not_mem plain.single, List.filter_cons_of_pos (by simp [solid]),
    List.filter_nil]

theorem componentOf_eq (plain : Plain name) : componentOf name.toList = .name name := by
  have named : name.toList ≠ ['.', '.'] := fun same => plain.notUp (String.toList_injective same)
  rw [componentOf, if_neg named, String.ofList_toList]

theorem components_join (plain : Plain name) (nonempty : directory.isEmpty = false) :
    (directory.join ⟨name⟩).components = directory.components ++ [.name name] := by
  rw [Path.components_join plain.isAbsolute_eq nonempty, plain.names_eq, List.map_singleton,
    plain.componentOf_eq]

theorem above_join (plain : Plain name) (nonempty : directory.isEmpty = false) :
    (directory.join ⟨name⟩).Above directory := by
  apply above_of_prefix (isPrefix_toList_join directory plain.isAbsolute_eq) nonempty
  rw [names_join plain.isAbsolute_eq nonempty, plain.names_eq, List.dropLast_concat]

end Plain

end SealedEnum.Path
