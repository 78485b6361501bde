import Mathlib.Data.List.Forall2
import SealedEnum.Proofs.Source.Comment

namespace SealedEnum.Source

open SealedEnum.Text SealedEnum.Unicode

/-! A comment block is its license line by line, without the white space at the ends of the lines
and without the empty lines at the end of the text, and these lines can be read back from it. -/

/-- The lines of a text without the white space behind them, and without empty ones at the end. -/
def contentLines (text : List Char) : List (List Char) :=
  ((text.splitOn '\n').map (List.rdropWhile isBlank)).rdropWhile List.isEmpty

def commented (line : List Char) : String :=
  if line = [] then "//" else "// " ++ String.ofList line

/-- The lines that the text of a comment block quotes. -/
def uncommented (block : String) : List (List Char) :=
  (linesOf block).dropLast.map fun line => line.toList.drop 3

/-! The block depends on these lines alone. -/

theorem splitAt_eq_splitOn (separator : Char) (text : List Char) :
    splitAt separator text = text.splitOn separator := by
  induction text with
  | nil => rfl
  | cons c rest ih =>
      rw [List.splitOn_cons_eq_if_modifyHead, ← ih]
      obtain ⟨piece, pieces, split⟩ := List.exists_cons_of_ne_nil (splitAt_ne_nil separator rest)
      by_cases same : c = separator
      · subst c
        rw [splitAt_separator]
        simp
      · rw [splitAt_cons same split, split]
        simp [same]

theorem contentLines_eq (text : List Char) :
    contentLines text = ((splitAt '\n' text).map trimEnd).rdropWhile List.isEmpty := by
  rw [contentLines, splitAt_eq_splitOn]
  rfl

theorem trimEnd_append_blank {line blank : List Char} (white : ∀ c ∈ blank, isBlank c = true) :
    trimEnd (line ++ blank) = trimEnd line := by
  rw [trimEnd, trimEnd, List.reverse_append, List.dropWhile_append_of_pos]
  exact fun c member => white c (List.mem_reverse.mp member)

theorem trimEnd_dropReturn (line : List Char) : trimEnd (dropReturn line) = trimEnd line := by
  unfold dropReturn
  split
  · rename_i last
    obtain ⟨front, rfl⟩ := List.getLast?_eq_some_iff.mp last
    rw [List.dropLast_concat, trimEnd_append_blank (List.forall_mem_singleton.mpr rfl)]
  · rfl

theorem commentLine_eq (line : List Char) :
    String.ofList (commentLine line) = commented (trimEnd line) := by
  unfold commentLine commented
  split
  · rename_i empty
    rw [empty]
    rfl
  · rename_i c rest kept
    rw [kept, if_neg (by simp), ← String.toList_inj]
    simp

theorem trimEnd_eq_nil_iff {line : List Char} :
    trimEnd line = [] ↔ ∀ c ∈ line, isBlank c = true :=
  List.rdropWhile_eq_nil_iff

theorem mem_iff_of_splitAt {separator c : Char} (other : c ≠ separator) {text : List Char} :
    c ∈ text ↔ ∃ piece ∈ splitAt separator text, c ∈ piece := by
  induction text with
  | nil => simp [splitAt]
  | cons d rest ih =>
      obtain ⟨piece, pieces, split⟩ := List.exists_cons_of_ne_nil (splitAt_ne_nil separator rest)
      by_cases same : d = separator
      · subst d
        simp [splitAt_separator, other, ih]
      · simp [splitAt_cons same split, ih, split, or_assoc]

theorem contentLines_eq_nil_iff {text : List Char} :
    contentLines text = [] ↔ isAllBlank text = true := by
  have feed : isBlank '\n' = true := by decide
  rw [contentLines_eq, List.rdropWhile_eq_nil_iff, List.forall_mem_map, isAllBlank,
    List.all_eq_true]
  simp only [List.isEmpty_iff, trimEnd_eq_nil_iff]
  constructor
  · intro white c member
    by_cases same : c = '\n'
    · rw [same, feed]
    · obtain ⟨piece, found, inside⟩ := (mem_iff_of_splitAt same).mp member
      exact white piece found c inside
  · intro white piece found c inside
    by_cases same : c = '\n'
    · rw [same, feed]
    · exact white c ((mem_iff_of_splitAt same).mpr ⟨piece, found, inside⟩)

theorem splitAt_concat {separator c : Char} (other : c ≠ separator) (text : List Char) :
    ∃ front last, splitAt separator text = front ++ [last] ∧
      splitAt separator (text ++ [c]) = front ++ [last ++ [c]] := by
  induction text with
  | nil => exact ⟨[], [], rfl, splitAt_cons other rfl⟩
  | cons d rest ih =>
      obtain ⟨front, last, split, longer⟩ := ih
      by_cases same : d = separator
      · subst d
        exact ⟨[] :: front, last, by rw [splitAt_separator, split]; rfl,
          by rw [List.cons_append, splitAt_separator, longer]; rfl⟩
      · cases front with
        | nil => exact ⟨[], d :: last, splitAt_cons same split, splitAt_cons same longer⟩
        | cons piece pieces =>
            exact ⟨(d :: piece) :: pieces, last, splitAt_cons same split,
              splitAt_cons same longer⟩

theorem contentLines_concat {c : Char} (blank : isBlank c = true) (text : List Char) :
    contentLines (text ++ [c]) = contentLines text := by
  rw [contentLines_eq, contentLines_eq]
  by_cases feed : c = '\n'
  · subst c
    rw [splitAt_append, List.map_append]
    exact List.rdropWhile_concat_pos _ _ _ rfl
  · obtain ⟨front, last, split, longer⟩ := splitAt_concat feed text
    rw [split, longer, List.map_append, List.map_append, List.map_singleton, List.map_singleton,
      trimEnd_append_blank (by simpa using blank)]

theorem contentLines_append {blank : List Char} (white : ∀ c ∈ blank, isBlank c = true)
    (text : List Char) : contentLines (text ++ blank) = contentLines text := by
  induction blank generalizing text with
  | nil => rw [List.append_nil]
  | cons c rest ih =>
      rw [List.forall_mem_cons] at white
      rw [List.append_cons, ih white.2, contentLines_concat white.1]

theorem contentLines_trimEnd (text : List Char) :
    contentLines (trimEnd text) = contentLines text := by
  have whole : trimEnd text ++ text.rtakeWhile isBlank = text :=
    List.rdropWhile_append_rtakeWhile
  have white : ∀ c ∈ text.rtakeWhile isBlank, isBlank c = true := fun _ =>
    List.mem_rtakeWhile_imp
  rw [← contentLines_append white (trimEnd text), whole]

theorem exists_last_of_trimEnd {text : List Char} (visible : isAllBlank text = false) :
    ∃ front c, trimEnd text = front ++ [c] ∧ isBlank c = false := by
  have nonempty : trimEnd text ≠ [] := by
    rw [ne_eq, trimEnd_eq_nil_iff]
    simpa [isAllBlank] using visible
  refine ⟨(trimEnd text).dropLast, (trimEnd text).getLast nonempty,
    (List.dropLast_concat_getLast nonempty).symm, ?_⟩
  exact Bool.eq_false_iff.mpr (List.rdropWhile_last_not isBlank text nonempty)

theorem trimEnd_concat {c : Char} (solid : isBlank c = false) (front : List Char) :
    trimEnd (front ++ [c]) = front ++ [c] :=
  List.rdropWhile_concat_neg isBlank front c (by simp [solid])

/-- Where a text ends in a character to be seen, each of its lines has one comment line. -/
theorem map_commentLine_lines {front : List Char} {c : Char} (solid : isBlank c = false) :
    ((lines (front ++ [c])).map commentLine).map String.ofList =
      (contentLines (front ++ [c])).map commented := by
  have other : c ≠ '\n' := by
    rintro rfl
    exact absurd solid (by decide)
  obtain ⟨before, last, -, split⟩ := splitAt_concat other front
  have terminated : lines (front ++ [c]) = before.map dropReturn ++ [last ++ [c]] := by
    obtain ⟨d, rest, spelled⟩ := List.exists_cons_of_ne_nil (List.concat_ne_nil c last)
    simp [lines, split, spelled]
  have kept : contentLines (front ++ [c]) = before.map trimEnd ++ [last ++ [c]] := by
    rw [contentLines_eq, split, List.map_append, List.map_singleton, trimEnd_concat solid]
    exact List.rdropWhile_concat_neg _ _ _ (by simp)
  rw [terminated, kept, List.map_map, List.map_append, List.map_append, List.map_map,
    List.map_map, List.map_singleton, List.map_singleton]
  congr 1
  · refine List.map_congr_left fun line _ => ?_
    simp only [Function.comp_apply, commentLine_eq, trimEnd_dropReturn]
  · simp only [Function.comp_apply, commentLine_eq, trimEnd_concat solid]

theorem commentBlock_eq (text : String) :
    commentBlock text =
      if contentLines text.toList = [] then none
      else some ((contentLines text.toList).map commented ++ ["//"]) := by
  unfold commentBlock
  dsimp only
  cases visible : isAllBlank text.toList with
  | true => rw [if_pos rfl, if_pos (contentLines_eq_nil_iff.mpr visible)]
  | false =>
      obtain ⟨front, c, spelled, solid⟩ := exists_last_of_trimEnd visible
      have content : contentLines text.toList ≠ [] := by
        rw [ne_eq, contentLines_eq_nil_iff, visible]
        simp
      rw [if_neg (by simp), if_neg content, ← contentLines_trimEnd, spelled, List.map_append,
        map_commentLine_lines solid]
      rfl

theorem eq_of_commentBlock {text : String} {block : List String}
    (made : commentBlock text = some block) :
    block = (contentLines text.toList).map commented ++ ["//"] := by
  rw [commentBlock_eq] at made
  split at made
  · contradiction
  · exact (Option.some.inj made).symm

/-! The lines can be read back, so that they depend on nothing but the block. -/

theorem drop_commented (line : List Char) : (commented line).toList.drop 3 = line := by
  unfold commented
  split
  · rename_i empty
    rw [empty]
    rfl
  · simp

theorem uncommented_joined {text : String} {block : List String}
    (made : commentBlock text = some block) :
    uncommented (joined block) = contentLines text.toList := by
  rw [uncommented, linesOf_joined (whole_of_mem_commentBlock made), eq_of_commentBlock made,
    List.dropLast_concat, List.map_map]
  exact List.map_id'' drop_commented _

/-! White space behind a line leaves no trace, and other lines stay where they are. -/

/-- A line with white space behind it. -/
def Padded (line longer : List Char) : Prop :=
  ∃ blank, (∀ c ∈ blank, isBlank c = true ∧ c ≠ '\n') ∧ longer = line ++ blank

/-- A text with a carriage return before each line feed. -/
def withReturns (text : List Char) : List Char :=
  text.flatMap fun c => if c = '\n' then ['\r', '\n'] else [c]

/-- Changes of a text that add white space to its lines or to its end. -/
inductive Repadded (text : List Char) : List Char → Prop where
  | returns : Repadded text (withReturns text)
  | atEnd {blank : List Char} (white : ∀ c ∈ blank, isBlank c = true) :
      Repadded text (text ++ blank)
  | inLines {other : List Char}
      (padded : List.Forall₂ Padded (text.splitOn '\n') (other.splitOn '\n')) :
      Repadded text other

theorem Padded.refl (line : List Char) : Padded line line :=
  ⟨[], by simp, by simp⟩

theorem Padded.cons {line longer : List Char} (padded : Padded line longer) (c : Char) :
    Padded (c :: line) (c :: longer) := by
  obtain ⟨blank, white, rfl⟩ := padded
  exact ⟨blank, white, rfl⟩

theorem Padded.trimEnd_eq {line longer : List Char} (padded : Padded line longer) :
    trimEnd line = trimEnd longer := by
  obtain ⟨blank, white, rfl⟩ := padded
  rw [trimEnd_append_blank fun c member => (white c member).1]

theorem padded_withReturns (text : List Char) :
    List.Forall₂ Padded (splitAt '\n' text) (splitAt '\n' (withReturns text)) := by
  induction text with
  | nil => exact .cons (.refl []) .nil
  | cons c rest ih =>
      by_cases feed : c = '\n'
      · subst c
        have longer : withReturns ('\n' :: rest) = ['\r'] ++ '\n' :: withReturns rest := by
          simp [withReturns]
        rw [longer, splitAt_append, splitAt_separator]
        exact .cons ⟨['\r'], List.forall_mem_singleton.mpr ⟨rfl, by decide⟩, rfl⟩ ih
      · have longer : withReturns (c :: rest) = c :: withReturns rest := by
          simp [withReturns, feed]
        obtain ⟨line, lines, split⟩ := List.exists_cons_of_ne_nil (splitAt_ne_nil '\n' rest)
        obtain ⟨other, others, splitOther⟩ :=
          List.exists_cons_of_ne_nil (splitAt_ne_nil '\n' (withReturns rest))
        rw [split, splitOther, List.forall₂_cons] at ih
        rw [longer, splitAt_cons feed split, splitAt_cons feed splitOther]
        exact .cons (ih.1.cons c) ih.2

theorem map_trimEnd_of_padded {lines others : List (List Char)}
    (padded : List.Forall₂ Padded lines others) : lines.map trimEnd = others.map trimEnd := by
  induction padded with
  | nil => rfl
  | cons first _ ih => rw [List.map_cons, List.map_cons, first.trimEnd_eq, ih]

theorem Repadded.contentLines_eq {text other : List Char} (repadded : Repadded text other) :
    contentLines other = contentLines text := by
  cases repadded with
  | returns =>
      rw [Source.contentLines_eq, Source.contentLines_eq,
        map_trimEnd_of_padded (padded_withReturns text)]
  | atEnd white => exact contentLines_append white text
  | inLines padded =>
      rw [← splitAt_eq_splitOn, ← splitAt_eq_splitOn] at padded
      rw [Source.contentLines_eq, Source.contentLines_eq, map_trimEnd_of_padded padded]

theorem getElem?_rdropWhile {α : Type} {p : α → Bool} {items : List α} {n m : Nat} {item : α}
    (before : n ≤ m) (found : items[m]? = some item) (stays : p item = false) :
    (items.rdropWhile p)[n]? = items[n]? := by
  have whole : items.rdropWhile p ++ items.rtakeWhile p = items :=
    List.rdropWhile_append_rtakeWhile
  have inside : m < (items.rdropWhile p).length := by
    by_contra beyond
    rw [← whole, List.getElem?_append_right (Nat.le_of_not_lt beyond)] at found
    have dropped := List.mem_rtakeWhile_imp (List.mem_of_getElem? found)
    rw [stays] at dropped
    contradiction
  rw [← List.getElem?_append_left (Nat.lt_of_le_of_lt before inside), whole]

/-- A block that quotes a text, each line at its place up to the last that is not blank. -/
structure Quotes (block : List String) (text : String) : Prop where
  spelled : block = (contentLines text.toList).map commented ++ ["//"]
  separate : linesOf (joined block) = block
  recovered : uncommented (joined block) = contentLines text.toList
  inPlace : ∀ (n m : Nat) (line later : List Char), n ≤ m →
    (text.toList.splitOn '\n')[n]? = some line → (text.toList.splitOn '\n')[m]? = some later →
      isAllBlank later = false → block[n]? = some (commented (line.rdropWhile isBlank))
  indented : ∀ (n : Nat) (line : List Char), (text.toList.splitOn '\n')[n]? = some line →
    isAllBlank line = false →
      block[n]? = some ("// " ++ String.ofList (line.takeWhile isBlank) ++
        String.ofList ((line.dropWhile isBlank).rdropWhile isBlank))

theorem getElem?_contentLines {text line later : List Char} {n m : Nat} (before : n ≤ m)
    (here : (text.splitOn '\n')[n]? = some line) (below : (text.splitOn '\n')[m]? = some later)
    (visible : isAllBlank later = false) :
    (contentLines text)[n]? = some (line.rdropWhile isBlank) := by
  have last : ((text.splitOn '\n').map (List.rdropWhile isBlank))[m]? =
      some (later.rdropWhile isBlank) := by
    rw [List.getElem?_map, below, Option.map_some]
  have kept : (later.rdropWhile isBlank).isEmpty = false := by
    rw [List.isEmpty_eq_false_iff, ne_eq, List.rdropWhile_eq_nil_iff]
    simpa [isAllBlank] using visible
  rw [contentLines, getElem?_rdropWhile before last kept, List.getElem?_map, here,
    Option.map_some]

/-- Of a line that is not blank, the indentation stays. -/
theorem commented_indented {line : List Char} (visible : isAllBlank line = false) :
    commented (line.rdropWhile isBlank) =
      "// " ++ String.ofList (line.takeWhile isBlank) ++
        String.ofList ((line.dropWhile isBlank).rdropWhile isBlank) := by
  have rest : isAllBlank (line.dropWhile isBlank) = false := by
    rw [isAllBlank, ← List.takeWhile_append_dropWhile (p := isBlank) (l := line), List.all_append,
      List.all_takeWhile, Bool.true_and] at visible
    exact visible
  have kept : line.rdropWhile isBlank =
      line.takeWhile isBlank ++ (line.dropWhile isBlank).rdropWhile isBlank := by
    have spelled : trimEnd (line.takeWhile isBlank ++ line.dropWhile isBlank) =
        line.takeWhile isBlank ++ trimEnd (line.dropWhile isBlank) := trimEnd_append rest
    rwa [List.takeWhile_append_dropWhile] at spelled
  have nonempty : line.rdropWhile isBlank ≠ [] := by
    rw [ne_eq, List.rdropWhile_eq_nil_iff]
    simpa [isAllBlank] using visible
  rw [commented, if_neg nonempty, kept, String.ofList_append, String.append_assoc]

theorem quotes_of_commentBlock {text : String} {block : List String}
    (made : commentBlock text = some block) : Quotes block text := by
  have spelled := eq_of_commentBlock made
  have inPlace : ∀ (n m : Nat) (line later : List Char), n ≤ m →
      (text.toList.splitOn '\n')[n]? = some line → (text.toList.splitOn '\n')[m]? = some later →
        isAllBlank later = false → block[n]? = some (commented (line.rdropWhile isBlank)) := by
    intro n m line later before here below visible
    have found := getElem?_contentLines before here below visible
    rw [spelled, List.getElem?_append_left, List.getElem?_map, found, Option.map_some]
    rw [List.length_map]
    exact (List.getElem?_eq_some_iff.mp found).1
  refine ⟨spelled, linesOf_joined (whole_of_mem_commentBlock made), uncommented_joined made,
    inPlace, ?_⟩
  intro n line here visible
  rw [← commented_indented visible]
  exact inPlace n n line line (Nat.le_refl n) here here visible

/-- The block of a text encodes its lines without the white space behind them and without empty
ones at the end: they make the block line by line, are read back from it, and are all that it
depends on. Blank text has no block. -/
theorem commentBlock_encodes (text : String) :
    (commentBlock text = none ↔ ∀ c ∈ text.toList, isBlank c = true) ∧
      (∀ block, commentBlock text = some block → Quotes block text) ∧
      (∀ other block otherBlock, commentBlock text = some block →
        commentBlock other = some otherBlock →
          (joined block = joined otherBlock ↔
            contentLines text.toList = contentLines other.toList)) ∧
      ∀ other : String, Repadded text.toList other.toList →
        commentBlock other = commentBlock text := by
  refine ⟨?_, fun _ => quotes_of_commentBlock, ?_, ?_⟩
  · rw [← List.all_eq_true, ← isAllBlank, ← contentLines_eq_nil_iff, commentBlock_eq]
    split
    · simp [*]
    · simp [*]
  · intro other block otherBlock made otherMade
    constructor
    · intro same
      rw [← uncommented_joined made, ← uncommented_joined otherMade, same]
    · intro same
      rw [eq_of_commentBlock made, eq_of_commentBlock otherMade, same]
  · intro other repadded
    rw [commentBlock_eq, commentBlock_eq, repadded.contentLines_eq]

example : commentBlock "\n  MIT \r\n\t\rand more\n \n" =
    some ["//", "//   MIT", "// \t\rand more", "//"] := by decide

end SealedEnum.Source
