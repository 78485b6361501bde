import SealedEnum.Proofs.Host.Frame
import SealedEnum.Proofs.Path.Parent

namespace SealedEnum.Disk

open SealedEnum.Text

/-! A file that can be read can be replaced, if a temporary file can be made beside it. -/

variable {disk changed : Disk} {directory place last parent : Place} {path above : Path}
  {name : String} {content : ByteArray}

/-! Dots in a path lead nowhere else. -/

theorem walk_cons_eq_ok_iff {segment : String} {rest : List String} :
    disk.walk place (segment :: rest) = .ok last ↔
      ∃ next, disk.step place segment = .ok next ∧ disk.walk next rest = .ok last := by
  rw [walk]
  cases disk.step place segment <;> simp

theorem walk_single_eq_ok_iff {segment : String} :
    disk.walk place [segment] = .ok last ↔ disk.step place segment = .ok last := by
  rw [walk_cons_eq_ok_iff]
  simp [walk]

theorem step_dot_eq_ok_iff :
    disk.step place "." = .ok last ↔ disk.lookup place = some .directory ∧ place = last := by
  rw [step_eq_ok_iff, if_pos rfl, Except.ok.injEq]

theorem walk_append_eq_ok_iff {first second : List String} :
    disk.walk place (first ++ second) = .ok last ↔
      ∃ middle, disk.walk place first = .ok middle ∧ disk.walk middle second = .ok last := by
  induction first generalizing place with
  | nil => simp [walk]
  | cons segment rest ih =>
      simp only [List.cons_append, walk_cons_eq_ok_iff, ih]
      grind

theorem directory_of_walk {segments : List String} (walks : disk.walk place segments = .ok last)
    (inside : disk.lookup last = some .directory) : disk.lookup place = some .directory := by
  cases segments with
  | nil =>
      cases walks
      exact inside
  | cons segment rest =>
      obtain ⟨next, steps, -⟩ := walk_cons_eq_ok_iff.mp walks
      exact (step_eq_ok_iff.mp steps).1

theorem walk_filter_iff {segments : List String} (inside : disk.lookup last = some .directory) :
    disk.walk place (segments.filter (· ≠ ".")) = .ok last ↔
      disk.walk place segments = .ok last := by
  induction segments generalizing place with
  | nil => rfl
  | cons segment rest ih =>
      by_cases dot : segment = "."
      · subst dot
        rw [List.filter_cons_of_neg (by simp), walk_cons_eq_ok_iff, ih]
        constructor
        · intro walks
          exact ⟨place, step_dot_eq_ok_iff.mpr ⟨directory_of_walk walks inside, rfl⟩, walks⟩
        · rintro ⟨next, steps, walks⟩
          obtain ⟨-, rfl⟩ := step_dot_eq_ok_iff.mp steps
          exact walks
      · rw [List.filter_cons_of_pos (by simpa using dot), walk_cons_eq_ok_iff,
          walk_cons_eq_ok_iff]
        exact exists_congr fun next => and_congr_right fun _ => ih

theorem filter_segments (path : Path) :
    (segments path).filter (· ≠ ".") = (Path.names path.text.toList).map String.ofList := by
  have spelled : ∀ piece : List Char, String.ofList piece = "." ↔ piece = ['.'] := by
    intro piece
    rw [← String.toList_inj, String.toList_ofList]
    rfl
  rw [segments, List.filter_map, List.filter_filter, Path.names]
  congr 2
  funext piece
  simp [Path.isVoid, spelled, Bool.and_comm]

theorem walk_of_names {first second : List String}
    (names : first.filter (· ≠ ".") = second.filter (· ≠ "."))
    (inside : disk.lookup last = some .directory) (walks : disk.walk place first = .ok last) :
    disk.walk place second = .ok last := by
  rwa [← walk_filter_iff inside, ← names, walk_filter_iff inside]

/-! Files are read from where they would be written to. -/

theorem isAbsolute_of_segments (usable : pathError? path = none) (none : segments path = []) :
    path.isAbsolute = true := by
  have spelled : path.text.toList ≠ [] := by
    intro empty
    simp [pathError?, Path.isEmpty, String.toList_eq_nil_iff.mp empty] at usable
  obtain ⟨c, rest, text⟩ := List.exists_cons_of_ne_nil spelled
  by_cases slash : c = '/'
  · rw [Path.isAbsolute, text, Path.startsAtRoot_cons, decide_eq_true slash]
  · obtain ⟨piece, pieces, split⟩ := List.exists_cons_of_ne_nil (splitAt_ne_nil '/' rest)
    simp [segments, text, splitAt_cons slash split] at none

/-- Every entry lies in a directory. -/
def IsTree (disk : Disk) : Prop :=
  ∀ old ∈ disk.entries, disk.lookup old.1.dropLast = some .directory

theorem IsTree.directory_above {entry : Entry} (tree : disk.IsTree)
    (held : disk.lookup place = some entry) : disk.lookup place.dropLast = some .directory := by
  by_cases top : place = []
  · subst top
    rfl
  · rw [lookup, if_neg top] at held
    obtain ⟨before, after, entries, -⟩ := List.lookup_eq_some_iff.mp held
    exact tree (place, entry) (by simp [entries])

theorem isTree_iff : disk.IsTree ↔
    ∀ place entry, disk.lookup place = some entry →
      disk.lookup place.dropLast = some .directory := by
  refine ⟨fun tree _ _ => tree.directory_above, ?_⟩
  rintro above ⟨place, entry⟩ member
  cases held : disk.lookup place with
  | some other => exact above place other held
  | none => exact absurd rfl ((lookup_eq_none_iff.mp held).2 (place, entry) member)

/-- A tree stays one where files are only made inside its directories. -/
theorem IsTree.of_frame {places : Place → Prop} (tree : disk.IsTree)
    (frame : disk.Frame changed places)
    (inside : ∀ place, places place → disk.lookup place.dropLast = some .directory) :
    changed.IsTree := by
  rw [isTree_iff]
  intro place entry held
  rw [frame.directories]
  by_cases written : places place
  · exact inside place written
  · rw [frame.elsewhere place written] at held
    exact tree.directory_above held

theorem directory_above_of_goal? (leads : disk.goal? directory path = some place) :
    disk.lookup place.dropLast = some .directory := by
  unfold goal? at leads
  split at leads
  · rename_i parent name found
    obtain rfl := Option.some.inj leads
    rw [List.dropLast_concat]
    exact (target_eq_ok_iff.mp found).2.2.1
  · contradiction

theorem exists_name_of_walk (tree : disk.IsTree) {segments : List String}
    (walks : disk.walk place segments = .ok last) (held : disk.lookup last = some (.file content))
    (onward : segments ≠ []) :
    ∃ front parent name, segments = front ++ [name] ∧ disk.walk place front = .ok parent ∧
      disk.lookup parent = some .directory ∧ isSpecialName name = false ∧
      name.utf8ByteSize ≤ longestName ∧ last = parent ++ [name] := by
  obtain ⟨front, name, rfl⟩ : ∃ front name, segments = front ++ [name] := by
    simpa [onward] using List.eq_nil_or_concat segments
  obtain ⟨parent, reaches, enters⟩ := walk_append_eq_ok_iff.mp walks
  obtain ⟨inside, leads⟩ := step_eq_ok_iff.mp (walk_single_eq_ok_iff.mp enters)
  have here : name ≠ "." := by
    rintro rfl
    rw [if_pos rfl, Except.ok.injEq] at leads
    rw [← leads, inside] at held
    simp at held
  have above : name ≠ ".." := by
    rintro rfl
    -- What lies above a directory is a directory, and no file.
    rw [if_neg (by decide), if_pos rfl, Except.ok.injEq] at leads
    rw [← leads, tree.directory_above inside] at held
    simp at held
  rw [if_neg here, if_neg above] at leads
  split at leads
  · contradiction
  · rename_i short
    exact ⟨front, parent, name, rfl, reaches, inside, by simp [isSpecialName, here, above],
      Nat.not_lt.mp short, (Except.ok.inj leads).symm⟩

theorem not_endsInSlash_of_walk {segments : List String} {slash : Bool}
    (walks : disk.walk place (segments ++ if slash then ["."] else []) = .ok last)
    (held : disk.lookup last = some (.file content)) : slash = false := by
  cases slash with
  | false => rfl
  | true =>
      obtain ⟨middle, -, enters⟩ := walk_append_eq_ok_iff.mp walks
      obtain ⟨inside, rfl⟩ := step_dot_eq_ok_iff.mp (walk_single_eq_ok_iff.mp enters)
      exact absurd (inside.symm.trans held) (by simp)

theorem pathError?_of_resolve (resolves : disk.resolve directory path = .ok place) :
    pathError? path = none ∧
      disk.walk (start directory path)
        (segments path ++ if endsInSlash path then ["."] else []) = .ok place := by
  unfold resolve at resolves
  split at resolves
  · contradiction
  · rename_i usable
    exact ⟨usable, resolves⟩

theorem writable_of_read (tree : disk.IsTree) (reads : disk.read directory path = .ok content) :
    ∃ parent name, disk.Writable directory path parent name := by
  obtain ⟨text, place, resolves, held⟩ := read_eq_ok_iff.mp reads
  obtain ⟨usable, walks⟩ := pathError?_of_resolve resolves
  have closed := not_endsInSlash_of_walk walks held
  rw [closed] at walks
  simp only [Bool.false_eq_true, if_false, List.append_nil] at walks
  have onward : segments path ≠ [] := by
    intro none
    rw [none, walk, Except.ok.injEq, start, if_pos (isAbsolute_of_segments usable none)] at walks
    simp [← walks, lookup] at held
  obtain ⟨front, parent, name, parts, reaches, inside, ordinary, short, rfl⟩ :=
    exists_name_of_walk tree walks held onward
  refine ⟨parent, name, ⟨text, target_eq_ok_iff.mpr ⟨usable, ?_, inside, ?_⟩, ordinary, short,
    closed, by simp [held]⟩⟩
  · rwa [parts, List.dropLast_concat]
  · rw [parts, List.getLast?_concat, Option.getD_some]

theorem pathError?_eq_none_iff :
    pathError? path = none ↔ path.isEmpty = false ∧ path.text.utf8ByteSize ≤ longestPath := by
  unfold pathError?
  cases path.isEmpty <;> simp

theorem holdsNul_of_above (text : holdsNul path = false) (lies : path.Above above) :
    holdsNul above = false := by
  simp only [holdsNul, List.contains_eq_mem, decide_eq_false_iff_not] at text ⊢
  intro member
  rcases lies.letters _ member with dot | inPath
  · contradiction
  · exact text inPath

theorem filter_parts {segments : List String} (ends : segments.getLast?.getD "." = name)
    (named : name ≠ ".") :
    segments.filter (· ≠ ".") = segments.dropLast.filter (· ≠ ".") ++ [name] := by
  cases found : segments.getLast? with
  | none =>
      rw [found] at ends
      exact absurd ends.symm named
  | some last =>
      rw [found, Option.getD_some] at ends
      subst last
      obtain ⟨front, rfl⟩ := List.getLast?_eq_some_iff.mp found
      rw [List.dropLast_concat, List.filter_append]
      simp [named]

theorem filter_segments_of_target (leads : disk.target directory path = .ok (parent, name))
    (named : name ≠ ".") :
    (segments path).filter (· ≠ ".") =
      (segments path).dropLast.filter (· ≠ ".") ++ [name] := by
  obtain ⟨-, -, -, ends⟩ := target_eq_ok_iff.mp leads
  exact filter_parts ends named

/-- What lies above a path leads to the directory that the path ends in. -/
theorem resolve_of_above (lies : path.Above above)
    (leads : disk.target directory path = .ok (parent, name)) (named : name ≠ ".") :
    disk.resolve directory above = .ok parent := by
  obtain ⟨usable, walks, inside, -⟩ := target_eq_ok_iff.mp leads
  obtain ⟨-, short⟩ := pathError?_eq_none_iff.mp usable
  have same : start directory above = start directory path := by
    rw [start, start, lies.absolute]
  rw [resolve, pathError?_eq_none_iff.mpr ⟨lies.nonempty, Nat.le_trans lies.short short⟩, same]
  refine walk_of_names ?_ inside walks
  have dots : (if endsInSlash above then ["."] else []).filter (· ≠ ".") = [] := by
    split <;> rfl
  have parts := filter_segments_of_target leads named
  rw [filter_segments] at parts
  rw [List.filter_append, dots, List.append_nil, filter_segments, lies.names,
    List.map_dropLast, parts, List.dropLast_concat]

theorem Writable.ne_dot (writable : disk.Writable directory path parent name) : name ≠ "." := by
  rintro rfl
  simpa [isSpecialName] using writable.ordinary

theorem Writable.exists_above (writable : disk.Writable directory path parent name) :
    ∃ above, path.directory? = some above ∧ path.Above above := by
  apply Path.exists_directory?
  intro none
  have parts := filter_segments_of_target writable.target writable.ne_dot
  rw [filter_segments, none] at parts
  simp at parts

theorem Writable.directoryAt_of_above (writable : disk.Writable directory path parent name)
    (lies : path.Above above) : disk.directoryAt directory above = .ok parent := by
  obtain ⟨-, -, inside, -⟩ := target_eq_ok_iff.mp writable.target
  exact directoryAt_eq_ok_iff.mpr ⟨holdsNul_of_above writable.text lies,
    resolve_of_above lies writable.target writable.ne_dot, inside⟩

/-- The directory that a writable path lies in is the one its file goes to. -/
theorem Writable.exists_directory (writable : disk.Writable directory path parent name) :
    ∃ above, path.directory? = some above ∧ disk.directoryAt directory above = .ok parent := by
  obtain ⟨above, lies, spelled⟩ := writable.exists_above
  exact ⟨above, lies, writable.directoryAt_of_above spelled⟩

/-- A temporary file can be made in the directory a path lies in, where there is one. -/
def TakesTemporary (disk : Disk) (directory : Place) (path : Path) : Prop :=
  ∀ above parent, path.directory? = some above → disk.directoryAt directory above = .ok parent →
    ∃ created, disk.createTemporary directory above = .ok created

theorem temporaryError?_of_createTemporary {created : TemporaryFile × Disk}
    (creates : disk.createTemporary directory path = .ok created) :
    temporaryError? directory path = none := by
  unfold createTemporary at creates
  split at creates
  · contradiction
  · split at creates
    · contradiction
    · assumption

theorem utf8ByteSize_join (above below : Path) :
    below.text.utf8ByteSize ≤ (above.join below).text.utf8ByteSize ∧
      (above.join below).text.utf8ByteSize ≤
        above.text.utf8ByteSize + below.text.utf8ByteSize + 1 := by
  have slash : ("/" : String).utf8ByteSize = 1 := by decide
  unfold Path.join
  split
  · omega
  · split <;> simp only [String.utf8ByteSize_append, slash] <;> omega

theorem utf8ByteSize_temporaryName : (temporaryName 0).utf8ByteSize = 10 := by
  decide

theorem isEmpty_join_temporaryName (above : Path) :
    (above.join ⟨temporaryName 0⟩).isEmpty = false := by
  have long := (utf8ByteSize_join above ⟨temporaryName 0⟩).1
  cases empty : (above.join ⟨temporaryName 0⟩).isEmpty with
  | false => rfl
  | true =>
      have size := String.utf8ByteSize_eq_zero_iff.mpr (String.isEmpty_iff.mp empty)
      rw [size, utf8ByteSize_temporaryName] at long
      contradiction

theorem pathError?_join_temporaryName (above : Path)
    (short : above.text.utf8ByteSize + 11 ≤ longestPath) :
    pathError? (above.join ⟨temporaryName 0⟩) = none := by
  have fits := (utf8ByteSize_join above ⟨temporaryName 0⟩).2
  rw [utf8ByteSize_temporaryName] at fits
  exact pathError?_eq_none_iff.mpr ⟨isEmpty_join_temporaryName above, Nat.le_trans fits short⟩

theorem temporaryError?_eq_none {here : Path} (there : pathTo directory = .ok here)
    (short : here.text.utf8ByteSize + above.text.utf8ByteSize + 12 ≤ longestPath) :
    temporaryError? directory above = none := by
  have fits := (utf8ByteSize_join here above).2
  rw [temporaryError?, absolute, there]
  cases above.isAbsolute with
  | true => exact pathError?_join_temporaryName above (by omega)
  | false => exact pathError?_join_temporaryName (here.join above) (by omega)

theorem le_utf8ByteSize_join (above : Path) {below : Path} (relative : below.isAbsolute = false) :
    above.text.utf8ByteSize + below.text.utf8ByteSize ≤ (above.join below).text.utf8ByteSize := by
  rw [Path.join, relative, if_neg Bool.false_ne_true]
  split <;> simp only [String.utf8ByteSize_append] <;> omega

theorem temporaryError?_eq_nameTooLong {here : Path} (there : pathTo directory = .ok here)
    (relative : above.isAbsolute = false)
    (long : longestPath < here.text.utf8ByteSize + above.text.utf8ByteSize + 10) :
    temporaryError? directory above = some .nameTooLong := by
  have name : (Path.mk (temporaryName 0)).isAbsolute = false := by decide
  have inside := le_utf8ByteSize_join here relative
  have beside := le_utf8ByteSize_join (here.join above) name
  rw [utf8ByteSize_temporaryName] at beside
  rw [temporaryError?, absolute, relative, if_neg Bool.false_ne_true, there]
  change pathError? ((here.join above).join ⟨temporaryName 0⟩) = _
  rw [pathError?, isEmpty_join_temporaryName, if_neg Bool.false_ne_true, if_pos (by omega)]

/-- Only a directory that was removed, or whose path is too long for that of the temporary file,
takes none. -/
theorem Writable.takesTemporary {here : Path}
    (writable : disk.Writable directory path parent name)
    (there : pathTo directory = .ok here)
    (short : here.text.utf8ByteSize + path.text.utf8ByteSize + 12 ≤ longestPath) :
    disk.TakesTemporary directory path := by
  intro other parent lies found
  obtain ⟨above, same, spelled⟩ := writable.exists_above
  obtain rfl := Option.some.inj (lies.symm.trans same)
  have fits := spelled.short
  exact ⟨_, createTemporary_eq found (temporaryError?_eq_none there (by omega))⟩

theorem Replaceable.takesTemporary (replaceable : disk.Replaceable directory path parent name) :
    disk.TakesTemporary directory path := by
  intro other room lies found
  obtain ⟨above, _, beside, -, short⟩ := replaceable.beside
  obtain rfl := Option.some.inj (lies.symm.trans beside)
  exact ⟨_, createTemporary_eq found short⟩

/-- A file that can be read can be replaced, if its directory takes temporary files. -/
theorem replaceable_of_read (tree : disk.IsTree) (room : disk.TakesTemporary directory path)
    (reads : disk.read directory path = .ok content) :
    ∃ parent name, disk.Replaceable directory path parent name := by
  obtain ⟨parent, name, writable⟩ := writable_of_read tree reads
  obtain ⟨above, lies, found⟩ := writable.exists_directory
  obtain ⟨created, creates⟩ := room above parent lies found
  exact ⟨parent, name, writable, above, parent, lies, found,
    temporaryError?_of_createTemporary creates⟩

theorem frame_of_replace_read (reads : disk.read directory path = .ok content)
    (replaced : disk.replace directory path content = .ok changed) :
    disk.Frame changed fun _ => False := by
  obtain ⟨parent, name, replaceable, rfl⟩ := replace_eq_ok_iff.mp replaced
  obtain ⟨-, place, resolves, held⟩ := read_eq_ok_iff.mp reads
  obtain rfl := Except.ok.inj (replaceable.resolve_eq.symm.trans resolves)
  refine ⟨replaceable.sameDirectories, replaceable.frame.files, fun place _ => ?_⟩
  rw [lookup_put (by simp)]
  split
  · rename_i same
    rw [same, held]
  · rfl

end SealedEnum.Disk
