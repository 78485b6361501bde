import Mathlib.Data.List.TakeWhile
import SealedEnum.Config.Substitution

namespace SealedEnum.Substitution

/-! Texts taken apart into literals and tokens, each token as far to the left as one starts. -/

def Token.text (token : Token) : List Char :=
  match token.default? with
  | none => '$' :: '{' :: (token.name ++ ['}'])
  | some text => '$' :: '{' :: (token.name ++ ':' :: '-' :: (text ++ ['}']))

structure Token.WellFormed (token : Token) : Prop where
  nonempty : token.name ≠ []
  name : ∀ c ∈ token.name, c ≠ '}' ∧ c ≠ ':'
  default : ∀ text, token.default? = some text → '}' ∉ text

def StartsToken (text : List Char) : Prop :=
  ∃ token rest, Token.WellFormed token ∧ text = token.text ++ rest

theorem isNamePart_iff (c : Char) : isNamePart c = true ↔ c ≠ '}' ∧ c ≠ ':' := by
  simp [isNamePart]

theorem isDefaultPart_iff (c : Char) : isDefaultPart c = true ↔ c ≠ '}' := by
  simp [isDefaultPart]

theorem tokenAt?_text_append {token : Token} (wellFormed : token.WellFormed) (rest : List Char) :
    tokenAt? (token.text ++ rest) = some (token, rest) := by
  obtain ⟨name, default⟩ := token
  obtain ⟨nonempty, named, closed⟩ := wellFormed
  have parts : ∀ c ∈ name, isNamePart c = true := fun c member =>
    (isNamePart_iff c).mpr (named c member)
  cases default with
  | none =>
      simp [Token.text, tokenAt?, List.takeWhile_append_of_pos parts,
        List.dropWhile_append_of_pos parts, isNamePart, nonempty]
  | some text =>
      have inside : ∀ c ∈ text, isDefaultPart c = true := fun c member =>
        (isDefaultPart_iff c).mpr fun same => closed text rfl (same ▸ member)
      simp [Token.text, tokenAt?, List.takeWhile_append_of_pos parts,
        List.dropWhile_append_of_pos parts, List.takeWhile_append_of_pos inside,
        List.dropWhile_append_of_pos inside, isNamePart, isDefaultPart, nonempty]

theorem closed_of_dropWhile {text rest : List Char} {c : Char}
    (dropped : text.dropWhile isDefaultPart = c :: rest) :
    text = text.takeWhile isDefaultPart ++ '}' :: rest := by
  have stops : c = '}' := by
    have head := List.head?_dropWhile_not isDefaultPart text
    rw [dropped] at head
    simpa [isDefaultPart] using head
  rw [← stops, ← dropped, List.takeWhile_append_dropWhile]

theorem wellFormed_of_tokenAt? {text rest : List Char} {token : Token}
    (found : tokenAt? text = some (token, rest)) :
    token.WellFormed ∧ text = token.text ++ rest := by
  unfold tokenAt? at found
  split at found
  · rename_i body
    have named : ∀ c ∈ body.takeWhile isNamePart, c ≠ '}' ∧ c ≠ ':' := fun c member =>
      (isNamePart_iff c).mp (List.mem_takeWhile_imp member)
    have whole := List.takeWhile_append_dropWhile (p := isNamePart) (l := body)
    dsimp only at found
    split at found
    · contradiction
    · rename_i nonempty
      have nonempty : body.takeWhile isNamePart ≠ [] := by simpa using nonempty
      split at found
      · rename_i closed
        obtain ⟨rfl, rfl⟩ := Prod.mk.inj (Option.some.inj found)
        refine ⟨⟨nonempty, named, by simp⟩, ?_⟩
        rw [closed] at whole
        simpa [Token.text] using whole.symm
      · rename_i inner opened
        split at found
        · rename_i dropped
          obtain ⟨rfl, rfl⟩ := Prod.mk.inj (Option.some.inj found)
          rw [opened, closed_of_dropWhile dropped] at whole
          refine ⟨⟨nonempty, named, ?_⟩, by simpa [Token.text] using whole.symm⟩
          rintro _ ⟨⟩ member
          exact (isDefaultPart_iff _).mp (List.mem_takeWhile_imp member) rfl
        · contradiction
      · contradiction
  · contradiction

theorem tokenAt?_eq_none_iff {text : List Char} : tokenAt? text = none ↔ ¬ StartsToken text := by
  constructor
  · rintro missing ⟨token, rest, wellFormed, rfl⟩
    rw [tokenAt?_text_append wellFormed] at missing
    contradiction
  · intro free
    cases found : tokenAt? text with
    | none => rfl
    | some read => exact absurd ⟨read.1, read.2, wellFormed_of_tokenAt? found⟩ free

/-- Literals and the tokens between them. -/
inductive Decomposition where
  | literal (text : List Char)
  | token (before : List Char) (token : Token) (after : Decomposition)

namespace Decomposition

def text : Decomposition → List Char
  | .literal text => text
  | .token before first after => before ++ (first.text ++ after.text)

def tokens : Decomposition → List Token
  | .literal _ => []
  | .token _ first after => first :: after.tokens

end Decomposition

/-- No token starts inside a literal where some text follows it. -/
def FreeBefore (following literal : List Char) : Prop :=
  ∀ before inside, literal = before ++ inside → inside ≠ [] → ¬ StartsToken (inside ++ following)

namespace Decomposition

def Leftmost : Decomposition → Prop
  | .literal text => FreeBefore [] text
  | .token before first after =>
      FreeBefore (first.text ++ after.text) before ∧ first.WellFormed ∧ after.Leftmost

structure Reads (decomposition : Decomposition) (whole : List Char) : Prop where
  text : decomposition.text = whole
  leftmost : decomposition.Leftmost

end Decomposition

/-! Literals and tokens are read piece by piece. -/

theorem FreeBefore.tail {following literal : List Char} {c : Char}
    (free : FreeBefore following (c :: literal)) : FreeBefore following literal := by
  rintro before inside rfl nonempty
  exact free (c :: before) inside rfl nonempty

theorem freeBefore_nil (following : List Char) : FreeBefore following [] := by
  intro before inside split nonempty
  exact absurd (List.append_eq_nil_iff.mp split.symm).2 nonempty

theorem freeBefore_cons {following literal : List Char} {c : Char}
    (here : ¬ StartsToken (c :: (literal ++ following))) (free : FreeBefore following literal) :
    FreeBefore following (c :: literal) := by
  intro before inside split nonempty
  cases before with
  | nil =>
      rw [List.nil_append] at split
      rwa [← split, List.cons_append]
  | cons first before => exact free before inside (List.cons.inj split).2 nonempty

theorem pieces_text_append {token : Token} (wellFormed : token.WellFormed) (rest : List Char) :
    pieces (token.text ++ rest) = .token token :: pieces rest := by
  rw [pieces]
  split
  · rename_i found
    rw [tokenAt?_text_append wellFormed] at found
    obtain ⟨rfl, rfl⟩ := Prod.mk.inj (Option.some.inj found)
    rfl
  · rename_i missing
    rw [tokenAt?_text_append wellFormed] at missing
    contradiction

theorem pieces_cons {c : Char} {rest : List Char} (free : ¬ StartsToken (c :: rest)) :
    pieces (c :: rest) = .literal c :: pieces rest := by
  rw [pieces]
  split
  · rename_i found
    rw [tokenAt?_eq_none_iff.mpr free] at found
    contradiction
  · rfl

theorem pieces_nil : pieces [] = [] := by
  rw [pieces]
  rfl

theorem pieces_append {following literal : List Char} (free : FreeBefore following literal) :
    pieces (literal ++ following) = literal.map .literal ++ pieces following := by
  induction literal with
  | nil => rfl
  | cons c rest ih =>
      have here : ¬ StartsToken (c :: (rest ++ following)) := free [] (c :: rest) rfl (by simp)
      rw [List.cons_append, pieces_cons here, ih free.tail, List.map_cons, List.cons_append]

namespace Decomposition

def pieces : Decomposition → List Piece
  | .literal text => text.map .literal
  | .token before first after => before.map .literal ++ .token first :: after.pieces

def push (c : Char) : Decomposition → Decomposition
  | .literal text => .literal (c :: text)
  | .token before first after => .token (c :: before) first after

def ofPieces : List Piece → Decomposition
  | [] => .literal []
  | .literal c :: rest => (ofPieces rest).push c
  | .token first :: rest => .token [] first (ofPieces rest)

theorem pieces_text {decomposition : Decomposition} (leftmost : decomposition.Leftmost) :
    Substitution.pieces decomposition.text = decomposition.pieces := by
  induction decomposition with
  | literal literal =>
      have read := pieces_append leftmost
      rwa [List.append_nil, pieces_nil, List.append_nil] at read
  | token before first after ih =>
      obtain ⟨free, wellFormed, later⟩ := leftmost
      rw [text, pieces_append free, pieces_text_append wellFormed, ih later, pieces]

theorem ofPieces_pieces (decomposition : Decomposition) :
    ofPieces decomposition.pieces = decomposition := by
  induction decomposition with
  | literal text =>
      induction text with
      | nil => rfl
      | cons c rest ih => exact congrArg (push c) ih
  | token before first after ih =>
      induction before with
      | nil => exact congrArg (token [] first) ih
      | cons c rest ih => exact congrArg (push c) ih

@[simp] theorem text_push (c : Char) (decomposition : Decomposition) :
    (decomposition.push c).text = c :: decomposition.text := by
  cases decomposition <;> rfl

theorem leftmost_push {c : Char} {decomposition : Decomposition}
    (here : ¬ StartsToken (c :: decomposition.text)) (leftmost : decomposition.Leftmost) :
    (decomposition.push c).Leftmost := by
  cases decomposition with
  | literal literal => exact freeBefore_cons (by simpa [text] using here) leftmost
  | token before first after =>
      exact ⟨freeBefore_cons (by simpa [text] using here) leftmost.1, leftmost.2⟩

theorem reads_ofPieces (whole : List Char) :
    (ofPieces (Substitution.pieces whole)).Reads whole := by
  induction whole using Substitution.pieces.induct with
  | case1 whole token rest found _ ih =>
      obtain ⟨wellFormed, rfl⟩ := wellFormed_of_tokenAt? found
      rw [pieces_text_append wellFormed]
      exact ⟨by simp [ofPieces, text, ih.text], freeBefore_nil _, wellFormed, ih.leftmost⟩
  | case2 missing =>
      rw [pieces_nil]
      exact ⟨rfl, freeBefore_nil _⟩
  | case3 c rest missing ih =>
      have here := tokenAt?_eq_none_iff.mp missing
      rw [pieces_cons here]
      exact ⟨by simp [ofPieces, ih.text], leftmost_push (by rwa [ih.text]) ih.leftmost⟩

theorem Reads.pieces {decomposition : Decomposition} {whole : List Char}
    (reads : decomposition.Reads whole) : Substitution.pieces whole = decomposition.pieces := by
  rw [← reads.text, pieces_text reads.leftmost]

theorem existsUnique_reads (whole : List Char) :
    ∃! decomposition : Decomposition, decomposition.Reads whole := by
  refine ⟨_, reads_ofPieces whole, ?_⟩
  intro other reads
  rw [reads.pieces, ofPieces_pieces]

end Decomposition

theorem Decomposition.reads_literal {whole : List Char}
    (free : ∀ before after, whole = before ++ after → ¬ StartsToken after) :
    Decomposition.Reads (.literal whole) whole := by
  refine ⟨rfl, fun before inside split _ => ?_⟩
  rw [List.append_nil]
  exact free before inside split

theorem not_startsToken_of_not_mem {text : List Char} (free : '$' ∉ text) : ¬ StartsToken text := by
  rintro ⟨⟨name, default⟩, rest, -, rfl⟩
  cases default <;> simp [Token.text] at free

/-! Tokens are replaced one by one, up to the first that nothing stands for. -/

def Token.Unset (lookup : String → Option String) (token : Token) : Prop :=
  ∀ value, lookup (String.ofList token.name) = some value → value = ""

/-- What stands for a token: its variable, or its default where that one is unset or empty. -/
inductive Token.Stands (lookup : String → Option String) (token : Token) : List Char → Prop where
  | value {value : String} (set : lookup (String.ofList token.name) = some value)
      (nonempty : value ≠ "") : Stands lookup token value.toList
  | default {text : List Char} (unset : token.Unset lookup) (given : token.default? = some text) :
      Stands lookup token text

/-- Nothing stands for a token without a default whose variable is unset or empty. -/
structure Token.Missing (lookup : String → Option String) (token : Token) : Prop where
  unset : token.Unset lookup
  default : token.default? = none

section Values

variable {lookup : String → Option String} {token : Token}

theorem Token.filter_of_unset (unset : token.Unset lookup) :
    ((lookup (String.ofList token.name)).filter fun value => !value.isEmpty) = none := by
  simpa [Token.Unset, Option.filter_eq_none_iff] using unset

theorem Token.value_of_stands {value : List Char} (stands : token.Stands lookup value) :
    token.value lookup = .ok value := by
  cases stands with
  | value set nonempty => simp [Token.value, set, Option.filter, nonempty]
  | default unset given => simp [Token.value, Token.filter_of_unset unset, given]

theorem Token.value_of_missing (missing : token.Missing lookup) :
    token.value lookup = .error (String.ofList token.name) := by
  simp [Token.value, Token.filter_of_unset missing.unset, missing.default]

theorem Token.stands_or_missing (lookup : String → Option String) (token : Token) :
    (∃ value, token.Stands lookup value) ∨ token.Missing lookup := by
  by_cases unset : token.Unset lookup
  · cases given : token.default? with
    | some text => exact .inl ⟨text, .default unset given⟩
    | none => exact .inr ⟨unset, given⟩
  · obtain ⟨value, set, nonempty⟩ : ∃ value,
        lookup (String.ofList token.name) = some value ∧ value ≠ "" := by
      simpa [Token.Unset] using unset
    exact .inl ⟨_, .value set nonempty⟩

theorem Token.not_missing_of_stands {value : List Char} (stands : token.Stands lookup value) :
    ¬ token.Missing lookup := by
  intro missing
  have valued := Token.value_of_stands stands
  rw [Token.value_of_missing missing] at valued
  contradiction

end Values

theorem expandPieces_literals (lookup : String → Option String) (literal : List Char)
    (rest : List Piece) :
    expandPieces lookup (literal.map .literal ++ rest) =
      (expandPieces lookup rest).map (literal ++ ·) := by
  induction literal with
  | nil =>
      rw [List.map_nil, List.nil_append]
      cases expandPieces lookup rest <;> rfl
  | cons c literal ih =>
      rw [List.map_cons, List.cons_append, expandPieces, ih]
      cases expandPieces lookup rest <;> rfl

namespace Decomposition

variable {lookup : String → Option String} {decomposition : Decomposition}

/-- The literals of a text with what stands for the tokens between them. -/
inductive Fills (lookup : String → Option String) : Decomposition → List Char → Prop where
  | literal (text : List Char) : Fills lookup (.literal text) text
  | token (before : List Char) {first : Token} {after : Decomposition} {value text : List Char}
      (stands : first.Stands lookup value) (filled : Fills lookup after text) :
      Fills lookup (.token before first after) (before ++ (value ++ text))

/-- The variable of the first token that nothing stands for. -/
inductive Misses (lookup : String → Option String) : Decomposition → String → Prop where
  | here (before : List Char) {first : Token} (after : Decomposition)
      (missing : first.Missing lookup) :
      Misses lookup (.token before first after) (String.ofList first.name)
  | later (before : List Char) {first : Token} {after : Decomposition} {value : List Char}
      {name : String} (stands : first.Stands lookup value) (missed : Misses lookup after name) :
      Misses lookup (.token before first after) name

def expanded (lookup : String → Option String) (decomposition : Decomposition) :
    Except String (List Char) :=
  expandPieces lookup decomposition.pieces

theorem expanded_literal (literal : List Char) :
    expanded lookup (.literal literal) = .ok literal := by
  have filled := expandPieces_literals lookup literal []
  rw [List.append_nil] at filled
  rw [expanded, pieces, filled]
  simp [expandPieces, Except.map]

theorem expanded_token (before : List Char) (first : Token) (after : Decomposition) :
    expanded lookup (.token before first after) =
      match first.value lookup with
      | .ok value => (after.expanded lookup).map fun text => before ++ (value ++ text)
      | .error name => .error name := by
  rw [expanded, pieces, expandPieces_literals, expandPieces, expanded, Piece.value]
  cases first.value lookup with
  | error name => rfl
  | ok value => cases expandPieces lookup after.pieces <;> rfl

theorem expanded_of_fills {filled : List Char} (fills : decomposition.Fills lookup filled) :
    decomposition.expanded lookup = .ok filled := by
  induction fills with
  | literal text => exact expanded_literal text
  | token before stands _ ih =>
      rw [expanded_token, Token.value_of_stands stands, ih]
      rfl

theorem expanded_of_misses {name : String} (misses : decomposition.Misses lookup name) :
    decomposition.expanded lookup = .error name := by
  induction misses with
  | here before after missing => rw [expanded_token, Token.value_of_missing missing]
  | later before stands _ ih =>
      rw [expanded_token, Token.value_of_stands stands, ih]
      rfl

theorem fills_or_misses (lookup : String → Option String) (decomposition : Decomposition) :
    (∃ filled, decomposition.Fills lookup filled) ∨ ∃ name, decomposition.Misses lookup name := by
  induction decomposition with
  | literal text => exact .inl ⟨text, .literal text⟩
  | token before first after ih =>
      rcases first.stands_or_missing lookup with ⟨value, stands⟩ | missing
      · rcases ih with ⟨filled, fills⟩ | ⟨name, misses⟩
        · exact .inl ⟨_, .token before stands fills⟩
        · exact .inr ⟨name, .later before stands misses⟩
      · exact .inr ⟨_, .here before after missing⟩

theorem expanded_eq_ok_iff {filled : List Char} :
    decomposition.expanded lookup = .ok filled ↔ decomposition.Fills lookup filled := by
  refine ⟨?_, expanded_of_fills⟩
  intro expands
  rcases decomposition.fills_or_misses lookup with ⟨other, fills⟩ | ⟨name, misses⟩
  · rw [expanded_of_fills fills] at expands
    rwa [← Except.ok.inj expands]
  · rw [expanded_of_misses misses] at expands
    contradiction

theorem expanded_eq_error_iff {name : String} :
    decomposition.expanded lookup = .error name ↔ decomposition.Misses lookup name := by
  refine ⟨?_, expanded_of_misses⟩
  intro fails
  rcases decomposition.fills_or_misses lookup with ⟨filled, fills⟩ | ⟨other, misses⟩
  · rw [expanded_of_fills fills] at fails
    contradiction
  · rw [expanded_of_misses misses] at fails
    rwa [← Except.error.inj fails]

theorem exists_fills_iff :
    (∃ filled, decomposition.Fills lookup filled) ↔
      ∀ token ∈ decomposition.tokens, ¬ Token.Missing lookup token := by
  induction decomposition with
  | literal text => simpa [tokens] using ⟨text, .literal text⟩
  | token before first after ih =>
      rw [tokens, List.forall_mem_cons, ← ih]
      constructor
      · rintro ⟨_, fills⟩
        cases fills with
        | token _ stands later => exact ⟨Token.not_missing_of_stands stands, _, later⟩
      · rintro ⟨present, filled, fills⟩
        obtain ⟨value, stands⟩ := (first.stands_or_missing lookup).resolve_right present
        exact ⟨_, .token before stands fills⟩

theorem expanded_congr {other : String → Option String}
    (same : ∀ token ∈ decomposition.tokens,
      lookup (String.ofList token.name) = other (String.ofList token.name)) :
    decomposition.expanded lookup = decomposition.expanded other := by
  induction decomposition with
  | literal text => rw [expanded_literal, expanded_literal]
  | token before first after ih =>
      obtain ⟨here, later⟩ := List.forall_mem_cons.mp same
      rw [expanded_token, expanded_token, ih later, Token.value, Token.value, here]

end Decomposition

theorem expand_of_reads {lookup : String → Option String} {text : String}
    {decomposition : Decomposition} (reads : decomposition.Reads text.toList) :
    expand lookup text = (decomposition.expanded lookup).map String.ofList := by
  rw [expand, reads.pieces]
  rfl

theorem expand_of_not_mem {lookup : String → Option String} {text : String}
    (free : '$' ∉ text.toList) : expand lookup text = .ok text := by
  have reads : Decomposition.Reads (.literal text.toList) text.toList := by
    apply Decomposition.reads_literal
    intro before after split
    apply not_startsToken_of_not_mem
    rw [split, List.mem_append, not_or] at free
    exact free.2
  rw [expand_of_reads reads, Decomposition.expanded_literal, Except.map, String.ofList_toList]

theorem expand_eq_ok_iff {lookup : String → Option String} {text : String}
    {decomposition : Decomposition} (reads : decomposition.Reads text.toList) {result : String} :
    expand lookup text = .ok result ↔ decomposition.Fills lookup result.toList := by
  rw [expand_of_reads reads, ← Decomposition.expanded_eq_ok_iff]
  cases decomposition.expanded lookup with
  | error name => simp [Except.map]
  | ok filled =>
      simp only [Except.map, Except.ok.injEq]
      constructor
      · rintro rfl
        exact String.toList_ofList.symm
      · rintro rfl
        exact String.ofList_toList

theorem expand_eq_error_iff {lookup : String → Option String} {text : String}
    {decomposition : Decomposition} (reads : decomposition.Reads text.toList) {name : String} :
    expand lookup text = .error name ↔ decomposition.Misses lookup name := by
  rw [expand_of_reads reads, ← Decomposition.expanded_eq_error_iff]
  cases decomposition.expanded lookup <;> simp [Except.map]

/-- What a text expands to, told by its literals and tokens. -/
structure Decomposition.Decides (decomposition : Decomposition) (text : String)
    (lookup : String → Option String) : Prop where
  succeeds_iff : (∃ result, expand lookup text = .ok result) ↔
    ∀ token ∈ decomposition.tokens, ¬ Token.Missing lookup token
  ok_iff : ∀ result, expand lookup text = .ok result ↔
    decomposition.Fills lookup result.toList
  error_iff : ∀ name, expand lookup text = .error name ↔ decomposition.Misses lookup name
  congr : ∀ other : String → Option String,
    (∀ token ∈ decomposition.tokens,
      other (String.ofList token.name) = lookup (String.ofList token.name)) →
    expand other text = expand lookup text

theorem Decomposition.Reads.decides {text : String} {decomposition : Decomposition}
    (reads : decomposition.Reads text.toList) (lookup : String → Option String) :
    decomposition.Decides text lookup where
  succeeds_iff := by
    rw [← exists_fills_iff]
    constructor
    · rintro ⟨result, expands⟩
      exact ⟨_, (expand_eq_ok_iff reads).mp expands⟩
    · rintro ⟨filled, fills⟩
      exact ⟨String.ofList filled, (expand_eq_ok_iff reads).mpr (by rwa [String.toList_ofList])⟩
  ok_iff := fun _ => expand_eq_ok_iff reads
  error_iff := fun _ => expand_eq_error_iff reads
  congr := by
    intro other same
    rw [expand_of_reads reads, expand_of_reads reads, expanded_congr same]

/-- Every text is read in one way. Where something stands for each of its tokens, these are
replaced and the literals stay; otherwise the first token that nothing stands for is told. -/
theorem expand_decomposition (text : String) :
    (∃! decomposition : Decomposition, decomposition.Reads text.toList) ∧
      (∀ decomposition : Decomposition, decomposition.Reads text.toList →
        ∀ lookup, decomposition.Decides text lookup) ∧
      ((∀ before after, text.toList = before ++ after → ¬ StartsToken after) →
        ∀ lookup, expand lookup text = .ok text) := by
  refine ⟨Decomposition.existsUnique_reads _, fun _ reads => reads.decides, ?_⟩
  intro free lookup
  exact (expand_eq_ok_iff (Decomposition.reads_literal free)).mpr (.literal _)

end SealedEnum.Substitution
