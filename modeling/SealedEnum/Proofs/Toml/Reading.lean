import SealedEnum.Toml.Document

namespace SealedEnum.Toml

/-! Documents read a line at a time, and the text between quotes that stands for itself. -/

/-- A character that neither ends a quoted text, nor begins an escape, nor is refused. -/
def isPlain (c : Char) : Bool :=
  c != '"' && c != '\\' && !isControl c

variable {text : List Char}

theorem isPlain_iff {c : Char} :
    isPlain c = true ↔ c ≠ '"' ∧ c ≠ '\\' ∧ isControl c = false := by
  simp [isPlain, and_assoc]

theorem basicLine_of_plain (plain : ∀ c ∈ text, isPlain c = true) (rest : List Char) {fuel : Nat}
    (enough : text.length < fuel) :
    basicLine fuel (text ++ '"' :: rest) = some (text, rest) := by
  induction text generalizing fuel with
  | nil =>
      obtain ⟨fuel, rfl⟩ := Nat.exists_eq_succ_of_ne_zero (Nat.ne_of_gt enough)
      rfl
  | cons c others ih =>
      obtain ⟨fuel, rfl⟩ := Nat.exists_eq_succ_of_ne_zero (Nat.ne_zero_of_lt enough)
      rw [List.forall_mem_cons, isPlain_iff] at plain
      obtain ⟨⟨unquoted, unescaped, visible⟩, later⟩ := plain
      rw [List.cons_append, basicLine, visible, ih later (Nat.lt_of_succ_lt_succ enough)]
      · rfl
      all_goals assumption

/-- Two quotes in a row could be the first of three, so there must be a character between them. -/
theorem quoted_of_plain (plain : ∀ c ∈ text, isPlain c = true) (named : text ≠ [])
    (rest : List Char) :
    quoted ('"' :: (text ++ '"' :: rest)) = some (String.ofList text, rest) := by
  have enough : text.length < (text ++ '"' :: rest).length + 1 := by
    rw [List.length_append]
    omega
  have reads := basicLine_of_plain plain rest enough
  obtain ⟨c, others, rfl⟩ := List.exists_cons_of_ne_nil named
  have unquoted := (isPlain_iff.mp (plain c List.mem_cons_self)).1
  rw [List.cons_append] at reads ⊢
  rw [quoted, quotedLine, reads]
  · rfl
  · simp [unquoted]
  · simp

theorem value_of_quote (depth : Nat) (rest : List Char) :
    value depth ('"' :: rest) =
      (quoted ('"' :: rest)).map fun (text, rest) => (.string text, rest) := by
  cases depth <;> rfl

theorem arrayItems_of_plain (plain : ∀ c ∈ text, isPlain c = true) (named : text ≠ [])
    (rest : List Char) (depth fuel : Nat) :
    arrayItems (value depth) (fuel + 1) ('"' :: (text ++ '"' :: ']' :: rest)) =
      some ([.string (String.ofList text)], rest) := by
  have begins : skipGap false ('"' :: (text ++ '"' :: ']' :: rest)) =
      some ('"' :: (text ++ '"' :: ']' :: rest)) := rfl
  rw [arrayItems, begins]
  change (value depth ('"' :: (text ++ '"' :: ']' :: rest))).bind _ = _
  rw [value_of_quote, quoted_of_plain plain named]
  rfl

/-- A list of one text. -/
theorem value_of_plain (plain : ∀ c ∈ text, isPlain c = true) (named : text ≠ [])
    (rest : List Char) (depth : Nat) :
    value (depth + 1) ('[' :: '"' :: (text ++ '"' :: ']' :: rest)) =
      some (.array [.string (String.ofList text)], rest) := by
  change (arrayItems (value depth) _ _).bind _ = _
  rw [arrayItems_of_plain plain named]
  rfl

theorem linesFrom_succ {draft next : Draft} {text start rest : List Char} {c : Char}
    (begins : skipGap false text = some (c :: start))
    (reads : line draft (c :: start) = some (next, rest)) (ends : endsLine rest = true)
    (fuel : Nat) : linesFrom (fuel + 1) draft text = linesFrom fuel next rest := by
  rw [linesFrom, begins]
  dsimp only
  rw [reads]
  exact if_pos ends

/-! A document that describes one type, and ends in the list of its values. -/

def paletteHead : String :=
  "[[enums]]\ntype_name = \"Color\"\npackage = \"colors\"\ndestination = \"color.go\"\n"

def paletteText (listed : String) : String :=
  paletteHead ++ ("values = [" ++ listed ++ "]\n")

/-- What is read before the values and then of them. -/
def paletteDraft (values : Entries) : Draft where
  entries := [("enums", .tables [.table .header
    ([("type_name", .string "Color"), ("package", .string "colors"),
      ("destination", .string "color.go")] ++ values)])]
  current := ["enums"]

theorem linesFrom_paletteHead (fuel : Nat) (rest : List Char) :
    linesFrom (fuel + 4) ⟨[], []⟩ (paletteHead.toList ++ 'v' :: rest) =
      linesFrom fuel (paletteDraft []) ('\n' :: 'v' :: rest) := rfl

theorem keyValue_values (element : Reader Value) (rest : List Char) :
    keyValue element ('v' :: ("alues = [".toList ++ rest)) =
      (element ('[' :: rest)).map fun (value, rest) => (([], "values", value), rest) := by
  change (element ('[' :: rest)).bind _ = _
  cases element ('[' :: rest) <;> rfl

variable {listed : String} {items : List Value}

theorem line_values {rest : List Char}
    (reads : value maximumDepth ('[' :: rest) = some (.array items, ['\n'])) :
    line (paletteDraft []) ('v' :: ("alues = [".toList ++ rest)) =
      some (paletteDraft [("values", .array items)], ['\n']) := by
  change (keyValue (value maximumDepth) ('v' :: ("alues = [".toList ++ rest))).bind _ = _
  rw [keyValue_values, reads]
  rfl

theorem document?_paletteText
    (reads : value maximumDepth ('[' :: (listed ++ "]\n").toList) =
      some (.array items, ['\n'])) :
    document? (paletteText listed) = some (paletteDraft [("values", .array items)]).entries := by
  have characters : (paletteText listed).toList =
      paletteHead.toList ++ 'v' :: ("alues = [".toList ++ (listed ++ "]\n").toList) := by
    have begins : "values = [".toList = 'v' :: "alues = [".toList := rfl
    simp only [paletteText, String.toList_append, List.append_assoc, begins, List.cons_append]
  have unmarked : ∀ rest, withoutByteOrderMark (paletteHead.toList ++ rest) =
      paletteHead.toList ++ rest := fun _ => rfl
  have size : paletteHead.toList.length = 74 := rfl
  have long : 5 ≤ (paletteText listed).toList.length := by
    rw [characters, List.length_append, size]
    omega
  obtain ⟨fuel, enough⟩ := Nat.exists_eq_add_of_le' long
  rw [characters] at enough
  rw [document?, characters, unmarked, enough]
  change (linesFrom (fuel + 1 + 1 + 4) _ _).map _ = _
  rw [linesFrom_paletteHead, linesFrom_succ rfl (line_values reads) rfl]
  rfl

end SealedEnum.Toml
