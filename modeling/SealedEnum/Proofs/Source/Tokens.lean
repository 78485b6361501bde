import SealedEnum.Proofs.Source.LookupTable

namespace SealedEnum.Source

open SealedEnum.Identifier

/-! The tokens of a source text, read character by character. Comments and white space leave none,
and the content of literals is passed over. -/

/-- Keywords are names as well. -/
inductive Token where
  | name (text : String)
  | number (text : String)
  | literal
  | mark (c : Char)
  deriving DecidableEq

/-- What the next character belongs to. -/
inductive Mode where
  | code
  | word (letters : List Char)
  | slash
  | lineComment
  | blockComment
  | blockCommentStar
  | quoted (delimiter : Char)
  | escaped (delimiter : Char)
  | raw
  deriving DecidableEq

structure Reading where
  found : List Token
  mode : Mode
  deriving DecidableEq

def Reading.after (earlier : List Token) (reading : Reading) : Reading :=
  ⟨earlier ++ reading.found, reading.mode⟩

def isSpace (c : Char) : Bool :=
  c = ' ' || c = '\t' || c = '\r' || c = '\n'

/-- A word is a name unless it starts with a digit. -/
def wordToken (letters : List Char) : Token :=
  if letters.head?.any isStart then .name (String.ofList letters)
  else .number (String.ofList letters)

/-- Outside of words, comments and literals. -/
def readCode (c : Char) : Reading :=
  if isPart c then ⟨[], .word [c]⟩
  else if c = '/' then ⟨[], .slash⟩
  else if c = '"' || c = '\'' then ⟨[], .quoted c⟩
  else if c = '\x60' then ⟨[], .raw⟩
  else if isSpace c then ⟨[], .code⟩
  else ⟨[.mark c], .code⟩

def readChar : Mode → Char → Reading
  | .code, c => readCode c
  | .word letters, c =>
      if isPart c then ⟨[], .word (letters ++ [c])⟩
      else (readCode c).after [wordToken letters]
  | .slash, c =>
      if c = '/' then ⟨[], .lineComment⟩
      else if c = '*' then ⟨[], .blockComment⟩
      else (readCode c).after [.mark '/']
  | .lineComment, c => if c = '\n' then ⟨[], .code⟩ else ⟨[], .lineComment⟩
  | .blockComment, c => if c = '*' then ⟨[], .blockCommentStar⟩ else ⟨[], .blockComment⟩
  | .blockCommentStar, c =>
      if c = '/' then ⟨[], .code⟩
      else if c = '*' then ⟨[], .blockCommentStar⟩
      else ⟨[], .blockComment⟩
  | .quoted delimiter, c =>
      if c = '\\' then ⟨[], .escaped delimiter⟩
      else if c = delimiter then ⟨[.literal], .code⟩
      else ⟨[], .quoted delimiter⟩
  | .escaped delimiter, _ => ⟨[], .quoted delimiter⟩
  | .raw, c => if c = '\x60' then ⟨[.literal], .code⟩ else ⟨[], .raw⟩

def readFrom : Mode → List Char → Reading
  | mode, [] => ⟨[], mode⟩
  | mode, c :: rest =>
      let next := readChar mode c
      (readFrom next.mode rest).after next.found

/-- A line feed behind the text ends its last word. -/
def tokens (text : String) : List Token :=
  (readFrom .code (text.toList ++ ['\n'])).found

def namesOf (found : List Token) : List String :=
  found.filterMap fun token =>
    match token with
    | .name text => some text
    | _ => none

@[simp] theorem Reading.after_nil (reading : Reading) : reading.after [] = reading := rfl

theorem Reading.after_append (first second : List Token) (reading : Reading) :
    reading.after (first ++ second) = (reading.after second).after first := by
  simp [after]

/-- Reading goes on in the mode that the text before ends in. -/
theorem readFrom_append (mode : Mode) (first second : List Char) :
    readFrom mode (first ++ second) =
      (readFrom (readFrom mode first).mode second).after (readFrom mode first).found := by
  induction first generalizing mode with
  | nil => rfl
  | cons c rest ih =>
      rw [List.cons_append, readFrom, readFrom, ih, ← Reading.after_append]
      rfl

theorem readFrom_word {letters parts : List Char} (all : ∀ c ∈ parts, isPart c = true) :
    readFrom (.word letters) parts = ⟨[], .word (letters ++ parts)⟩ := by
  induction parts generalizing letters with
  | nil => simp [readFrom]
  | cons c rest ih =>
      rw [List.forall_mem_cons] at all
      rw [readFrom, readChar, if_pos all.1, Reading.after_nil, ih all.2, List.append_assoc]
      rfl

theorem readFrom_identifier {name : String} (identifier : isIdentifier name = true) :
    readFrom .code name.toList = ⟨[], .word name.toList⟩ := by
  obtain ⟨c, rest, spelled, start, parts⟩ := isIdentifier_iff.mp identifier
  have part : isPart c = true := isPart_of_isStart start
  rw [spelled, readFrom, readChar, readCode, if_pos part]
  exact readFrom_word parts

theorem wordToken_identifier {name : String} (identifier : isIdentifier name = true) :
    wordToken name.toList = .name name := by
  obtain ⟨c, rest, spelled, start, _⟩ := isIdentifier_iff.mp identifier
  rw [wordToken, spelled, List.head?_cons, Option.any_some, if_pos start, ← spelled,
    String.ofList_toList]

/-- A name ends where no further part follows. -/
theorem readFrom_name {name : String} (identifier : isIdentifier name = true) {rest : List Char}
    (ends : EndsName rest) (followed : rest ≠ []) :
    readFrom .code (name.toList ++ rest) = (readFrom .code rest).after [.name name] := by
  obtain ⟨c, others, rfl⟩ := List.exists_cons_of_ne_nil followed
  have outside : isPart c = false := ends c rfl
  rw [readFrom_append, readFrom_identifier identifier, Reading.after_nil, readFrom, readFrom,
    readChar, readChar, if_neg (by simp [outside]), wordToken_identifier identifier]
  exact Reading.after_append [.name name] (readCode c).found _

theorem readFrom_lineComment {comment : List Char} (whole : '\n' ∉ comment) (rest : List Char) :
    readFrom .lineComment (comment ++ '\n' :: rest) = readFrom .code rest := by
  induction comment with
  | nil => simp [readFrom, readChar]
  | cons c others ih =>
      rw [List.mem_cons, not_or] at whole
      rw [List.cons_append, readFrom, readChar, if_neg (Ne.symm whole.1)]
      exact ih whole.2

/-- A line that starts with two slashes is passed over, whatever it holds. -/
theorem readFrom_comment {line : String} (comment : isComment line = true)
    (whole : '\n' ∉ line.toList) (rest : List Char) :
    readFrom .code (line.toList ++ '\n' :: rest) = readFrom .code rest := by
  obtain ⟨content, spelled⟩ := List.isPrefixOf_iff_prefix.mp comment
  rw [← spelled] at whole ⊢
  have inside : '\n' ∉ content := fun member => whole (by simp [member])
  have opens : readFrom .code ['/', '/'] = ⟨[], .lineComment⟩ := rfl
  rw [List.append_assoc, readFrom_append, opens, Reading.after_nil]
  exact readFrom_lineComment inside rest

theorem readFrom_quoted {delimiter : Char} {content : List Char}
    (plain : ∀ c ∈ content, c ≠ '\\' ∧ c ≠ delimiter) :
    readFrom (.quoted delimiter) content = ⟨[], .quoted delimiter⟩ := by
  induction content with
  | nil => rfl
  | cons c rest ih =>
      obtain ⟨⟨noEscape, inside⟩, later⟩ := List.forall_mem_cons.mp plain
      rw [readFrom, readChar, if_neg noEscape, if_neg inside]
      exact ih later

theorem mem_namesOf {found : List Token} {name : String} :
    name ∈ namesOf found ↔ .name name ∈ found := by
  simp only [namesOf, List.mem_filterMap]
  constructor
  · rintro ⟨token, member, same⟩
    split at same
    · cases same
      exact member
    · contradiction
  · intro member
    exact ⟨_, member, rfl⟩

@[simp] theorem namesOf_append (first second : List Token) :
    namesOf (first ++ second) = namesOf first ++ namesOf second :=
  List.filterMap_append

example : tokens "return fmt.Errorf(\"a\\\"b\", 'x') // fmt" =
    [.name "return", .name "fmt", .mark '.', .name "Errorf", .mark '(', .literal, .mark ',',
      .literal, .mark ')'] := by decide

end SealedEnum.Source
