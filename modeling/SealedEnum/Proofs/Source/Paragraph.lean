import Mathlib.Data.List.Chain
import SealedEnum.Proofs.Source.Comment
import SealedEnum.Proofs.Source.Scope

namespace SealedEnum.Source

open SealedEnum.Identifier SealedEnum.Text SealedEnum.Unicode

/-! Paragraphs: lines without white space at their ends and with single blank lines between them. -/

/-- The code points of white space. -/
def blankPoints : List Nat :=
  [9, 10, 11, 12, 13, 32, 0x85, 0xA0, 0x1680, 0x2000, 0x2001, 0x2002, 0x2003, 0x2004, 0x2005,
    0x2006, 0x2007, 0x2008, 0x2009, 0x200A, 0x2028, 0x2029, 0x202F, 0x205F, 0x3000]

theorem isPart_eq_false_of_isBlank {c : Char} (blank : isBlank c = true) : isPart c = false := by
  have listed : c.toNat ∈ blankPoints := by
    simp only [isBlank, Bool.or_eq_true, Bool.and_eq_true, decide_eq_true_eq, beq_iff_eq] at blank
    simp only [blankPoints, List.mem_cons, List.not_mem_nil, or_false]
    omega
  -- Few enough to look each of them up in the tables of letters and digits.
  have outside : ∀ n ∈ blankPoints, isPart (Char.ofNat n) = false := by
    decide +kernel
  rw [← Char.ofNat_toNat c]
  exact outside _ listed

/-- The last character of the line can be seen. -/
def endsVisibly (line : String) : Bool :=
  line.toList.getLast?.any fun c => !isBlank c

theorem endsVisibly_append {text ending : String} (visible : endsVisibly ending = true) :
    endsVisibly (text ++ ending) = true := by
  unfold endsVisibly at visible ⊢
  rw [String.toList_append, List.getLast?_append]
  cases last : ending.toList.getLast? with
  | none => simp [last] at visible
  | some c => simpa [last] using visible

theorem endsVisibly_identifier {name : String} (identifier : isIdentifier name = true) :
    endsVisibly name = true := by
  have nonempty : name.toList ≠ [] := by
    obtain ⟨c, rest, spelled, _, _⟩ := isIdentifier_iff.mp identifier
    simp [spelled]
  obtain ⟨last, ends⟩ : ∃ last, name.toList.getLast? = some last :=
    ⟨_, List.getLast?_eq_some_getLast nonempty⟩
  have part := isPart_of_mem identifier (List.mem_of_getLast? ends)
  rw [endsVisibly, ends]
  cases blank : isBlank last with
  | true =>
      rw [isPart_eq_false_of_isBlank blank] at part
      contradiction
  | false => simp [blank]

theorem exists_last_of_endsVisibly {line : String} (visible : endsVisibly line = true) :
    ∃ front c, line.toList = front ++ [c] ∧ isBlank c = false := by
  unfold endsVisibly at visible
  cases last : line.toList.getLast? with
  | none => simp [last] at visible
  | some c =>
      obtain ⟨front, spelled⟩ := List.getLast?_eq_some_iff.mp last
      exact ⟨front, c, spelled, by simpa [last] using visible⟩

theorem isAllBlank_of_endsVisibly {line : String} (visible : endsVisibly line = true) :
    isAllBlank line.toList = false := by
  obtain ⟨front, c, spelled, shown⟩ := exists_last_of_endsVisibly visible
  simp [isAllBlank, spelled, shown]

theorem trimEnd_of_endsVisibly {line : String} (visible : endsVisibly line = true) :
    trimEnd line.toList = line.toList := by
  obtain ⟨front, c, spelled, shown⟩ := exists_last_of_endsVisibly visible
  rw [spelled, trimEnd_eq, List.rdropWhile_concat_neg _ _ _ (by simp [shown])]

theorem endsVisibly_indent {line : String} (visible : endsVisibly line = true) :
    endsVisibly (Declaration.indent line) = true := by
  unfold Declaration.indent
  split
  · exact visible
  · exact endsVisibly_append visible

/-- Lines that start and end with text, where no blank line follows a blank one. -/
structure Paragraph (lines : List String) : Prop where
  starts : ∃ line ∈ lines.head?, endsVisibly line = true
  ends : ∃ line ∈ lines.getLast?, endsVisibly line = true
  spaced : lines.IsChain fun line next => endsVisibly line = true ∨ endsVisibly next = true
  trimmed : ∀ line ∈ lines, line = "" ∨ endsVisibly line = true

namespace Paragraph

variable {lines first second : List String}

theorem solid (nonempty : lines ≠ []) (visible : ∀ line ∈ lines, endsVisibly line = true) :
    Paragraph lines where
  starts := by
    obtain ⟨line, rest, rfl⟩ := List.exists_cons_of_ne_nil nonempty
    exact ⟨line, rfl, visible line (by simp)⟩
  ends := ⟨_, List.getLast?_eq_some_getLast nonempty, visible _ (List.getLast_mem nonempty)⟩
  spaced := (List.pairwise_of_forall_mem_list fun line member _ _ =>
    .inl (visible line member)).isChain
  trimmed line member := .inr (visible line member)

theorem append (before : Paragraph first) (after : Paragraph second) :
    Paragraph (first ++ second) where
  starts := by
    obtain ⟨line, head, visible⟩ := before.starts
    exact ⟨line, by rw [List.head?_append, head]; rfl, visible⟩
  ends := by
    obtain ⟨line, last, visible⟩ := after.ends
    exact ⟨line, by rw [List.getLast?_append, last]; rfl, visible⟩
  spaced := by
    obtain ⟨line, last, visible⟩ := before.ends
    refine before.spaced.append after.spaced fun other ends _ _ => .inl ?_
    rw [last] at ends
    exact Option.some.inj ends ▸ visible
  trimmed := List.forall_mem_append.mpr ⟨before.trimmed, after.trimmed⟩

theorem append_blank (before : Paragraph first) (after : Paragraph second) :
    Paragraph (first ++ "" :: second) := by
  obtain ⟨opening, head, shown⟩ := after.starts
  obtain ⟨closing, last, visible⟩ := before.ends
  constructor
  · obtain ⟨line, starts, seen⟩ := before.starts
    exact ⟨line, by rw [List.head?_append, starts]; rfl, seen⟩
  · obtain ⟨line, ends, seen⟩ := after.ends
    exact ⟨line, by rw [List.getLast?_append, List.getLast?_cons, ends]; rfl, seen⟩
  · refine before.spaced.append (after.spaced.cons fun line starts => .inr ?_)
      fun line ends _ _ => .inl ?_
    · rw [head] at starts
      exact Option.some.inj starts ▸ shown
    · rw [last] at ends
      exact Option.some.inj ends ▸ visible
  · rw [List.forall_mem_append, List.forall_mem_cons]
    exact ⟨before.trimmed, .inl rfl, after.trimmed⟩

theorem single {line : String} (visible : endsVisibly line = true) : Paragraph [line] :=
  solid (by simp) (List.forall_mem_singleton.mpr visible)

theorem cons {line : String} (visible : endsVisibly line = true) (rest : Paragraph lines) :
    Paragraph (line :: lines) :=
  (single visible).append rest

theorem cons_blank {line : String} (visible : endsVisibly line = true) (rest : Paragraph lines) :
    Paragraph (line :: "" :: lines) :=
  (single visible).append_blank rest

theorem intercalate {parts : List (List String)} (nonempty : parts ≠ [])
    (each : ∀ part ∈ parts, Paragraph part) : Paragraph (List.intercalate [""] parts) := by
  induction parts with
  | nil => contradiction
  | cons part others ih =>
      obtain ⟨here, later⟩ := List.forall_mem_cons.mp each
      cases others with
      | nil => simpa using here
      | cons second rest =>
          rw [List.intercalate_cons_cons, List.append_assoc]
          exact here.append_blank (ih (by simp) later)

theorem map_indent (paragraph : Paragraph lines) :
    Paragraph (lines.map Declaration.indent) := by
  constructor
  · obtain ⟨line, head, visible⟩ := paragraph.starts
    refine ⟨_, ?_, endsVisibly_indent visible⟩
    rw [List.head?_map, head]
    rfl
  · obtain ⟨line, last, visible⟩ := paragraph.ends
    refine ⟨_, ?_, endsVisibly_indent visible⟩
    rw [List.getLast?_map, last]
    rfl
  · refine List.isChain_map_of_isChain _ (fun line next apart => ?_) paragraph.spaced
    exact apart.imp endsVisibly_indent endsVisibly_indent
  · rw [List.forall_mem_map]
    exact fun line member => (paragraph.trimmed line member).imp (fun blank => by rw [blank]; rfl)
      endsVisibly_indent

/-- The braces around a body are visible. -/
theorem braced {opening : String} {body : List String} (tidy : body = [] ∨ Paragraph body) :
    Paragraph (Declaration.braced opening body) := by
  rcases tidy with rfl | inside
  · exact single (endsVisibly_append (by decide))
  · have nonempty : body.isEmpty = false := by
      obtain ⟨first, head, _⟩ := inside.starts
      obtain ⟨rest, rfl⟩ := List.head?_eq_some_iff.mp head
      rfl
    rw [Declaration.braced, nonempty, if_neg Bool.false_ne_true]
    exact (cons (endsVisibly_append (by decide)) inside.map_indent).append (single (by decide))

end Paragraph

theorem Registry.paragraph_lines (registry : Registry) : Paragraph registry.lines := by
  have shape : registry.lines = (["var ("] ++ registry.singletonLines)
      ++ "" :: (registry.listLines ++ "" :: (registry.tableLines ++ [")"])) := by
    simp [Registry.lines]
  have singles : ∀ line ∈ ["var ("] ++ registry.singletonLines, endsVisibly line = true := by
    simp only [singletonLines, List.forall_mem_append, List.forall_mem_map,
      List.forall_mem_singleton, toString]
    exact ⟨by decide, fun value _ => endsVisibly_append (by decide)⟩
  have list : ∀ line ∈ registry.listLines, endsVisibly line = true := by
    simp only [listLines, List.forall_mem_append, List.forall_mem_map,
      List.forall_mem_singleton, toString]
    exact ⟨⟨endsVisibly_append (by decide), fun value _ => endsVisibly_append (by decide)⟩,
      by decide⟩
  have table : ∀ line ∈ registry.tableLines ++ [")"], endsVisibly line = true := by
    simp only [tableLines, List.forall_mem_append, List.forall_mem_map,
      List.forall_mem_singleton, toString]
    exact ⟨⟨⟨endsVisibly_append (by decide), fun value _ => endsVisibly_append (by decide)⟩,
      by decide⟩, by decide⟩
  rw [shape]
  exact (Paragraph.solid (by simp) singles).append_blank
    ((Paragraph.solid (by simp [Registry.listLines]) list).append_blank
      (Paragraph.solid (by simp) table))

/-- What stands between the braces of a declaration. -/
def Declaration.body : Declaration → List String
  | .interface _ methods => methods
  | .record _ fields => fields
  | .valueRegistry _ => []
  | .function _ _ body => body
  | .method _ _ _ body => body

def Declaration.Tidy (declaration : Declaration) : Prop :=
  declaration.body = [] ∨ Paragraph declaration.body

theorem Declaration.tidy_of_visible {declaration : Declaration}
    (visible : ∀ line ∈ declaration.body, endsVisibly line = true) : declaration.Tidy := by
  by_cases empty : declaration.body = []
  · exact .inl empty
  · exact .inr (.solid empty visible)

theorem Declaration.Tidy.paragraph {declaration : Declaration} (tidy : declaration.Tidy) :
    Paragraph declaration.lines := by
  cases declaration with
  | valueRegistry registry => exact registry.paragraph_lines
  | interface name methods => exact Paragraph.braced tidy
  | record name fields => exact Paragraph.braced tidy
  | function name signature body => exact Paragraph.braced tidy
  | method receiver name signature body => exact Paragraph.braced tidy

/-! Indentation is by tabs. -/

/-- The lines of code hold no carriage return either. -/
structure Plain (line : String) : Prop where
  unspaced : line.toList.head? ≠ some ' '
  unreturned : '\r' ∉ line.toList

theorem unspaced_append {c : Char} {beginning : String} (rest : String)
    (first : beginning.toList.head? = some c) (other : c ≠ ' ') :
    (beginning ++ rest).toList.head? ≠ some ' ' := by
  rw [head?_append rest first]
  simpa using other

theorem unspaced_braced {c : Char} {opening : String} {body : List String}
    (first : opening.toList.head? = some c) (other : c ≠ ' ') :
    ∀ line ∈ Declaration.braced opening body, line.toList.head? ≠ some ' ' := by
  have indented : ∀ line, (Declaration.indent line).toList.head? ≠ some ' ' := by
    intro line
    unfold Declaration.indent
    split
    · rename_i empty
      simp [String.isEmpty_iff.mp empty]
    · exact unspaced_append line (c := '\t') (by simp) (by decide)
  unfold Declaration.braced
  split
  · exact List.forall_mem_singleton.mpr (unspaced_append _ first other)
  · simp only [List.forall_mem_append, List.forall_mem_map, List.forall_mem_singleton]
    exact ⟨⟨unspaced_append _ first other, fun line _ => indented line⟩, by decide⟩

theorem Registry.unspaced_lines (registry : Registry) :
    ∀ line ∈ registry.lines, line.toList.head? ≠ some ' ' := by
  simp only [Registry.lines, singletonLines, listLines, tableLines, List.forall_mem_append,
    List.forall_mem_map, List.forall_mem_singleton, toString, String.append_assoc]
  simp

theorem Declaration.unspaced_lines (declaration : Declaration) :
    ∀ line ∈ declaration.lines, line.toList.head? ≠ some ' ' := by
  cases declaration with
  | valueRegistry registry => exact registry.unspaced_lines
  | interface name methods | record name fields =>
      exact unspaced_braced (c := 't') (by simp [toString]) (by decide)
  | function name signature body | method receiver name signature body =>
      exact unspaced_braced (c := 'f') (by simp [toString]) (by decide)

/-! The declarations of a model. -/

variable {model : Model}

theorem tidy_baseDeclarations (sound : model.Sound) :
    ∀ declaration ∈ model.baseDeclarations, declaration.Tidy := by
  obtain ⟨_, _, marshallable, _, _⟩ := isIdentifier_names sound
  have visible : ∀ declaration ∈ model.baseDeclarations, ∀ line ∈ declaration.body,
      endsVisibly line = true := by
    simp only [Model.baseDeclarations, List.forall_mem_cons, Declaration.body, toString]
    cases model.has .jsonCodec <;>
      simp +decide [endsVisibly_append, endsVisibly_identifier, marshallable]
  exact fun declaration member => Declaration.tidy_of_visible (visible declaration member)

theorem tidy_strictLookup (model : Model) : model.strictLookup.Tidy := by
  apply Declaration.tidy_of_visible
  simp only [Model.strictLookup, Declaration.body, List.forall_mem_cons, toString]
  simp +decide [endsVisibly_append]

theorem tidy_fallbackLookup (sound : model.Sound) {value : String}
    (undefined : model.undefined = some value) : (model.fallbackLookup value).Tidy := by
  have identifier := sound.undefined_identifier undefined
  apply Declaration.tidy_of_visible
  simp only [Model.fallbackLookup, Declaration.body, List.forall_mem_cons, toString]
  simp +decide [endsVisibly_append, endsVisibly_identifier, identifier]

/-- Blank lines set the steps of decoding apart. -/
theorem paragraph_decodeBody (sound : model.Sound) : Paragraph model.decodeBody := by
  unfold Model.decodeBody
  split
  · rename_i value fallback
    have undefined := sound.undefined_identifier (Model.undefined_of_decodeFallback fallback)
    have assigned : endsVisibly s!"\tm.en = {value}" = true :=
      endsVisibly_append (endsVisibly_identifier undefined)
    unfold Model.fallbackDecodeBody
    repeat' first | apply Paragraph.single | apply Paragraph.cons_blank | apply Paragraph.cons
    all_goals first | decide | exact assigned
  · unfold Model.strictDecodeBody
    repeat' first | apply Paragraph.single | apply Paragraph.cons_blank | apply Paragraph.cons
    all_goals first | decide | exact endsVisibly_append (endsVisibly_append (by decide))

theorem tidy_jsonDeclarations (sound : model.Sound) :
    ∀ declaration ∈ model.jsonDeclarations, declaration.Tidy := by
  obtain ⟨interface, _, _, _, _⟩ := isIdentifier_names sound
  simp only [Model.jsonDeclarations, List.forall_mem_cons]
  refine ⟨?_, ?_, .inr (paragraph_decodeBody sound), ?_, ?_, List.forall_mem_nil _⟩
  all_goals
    apply Declaration.tidy_of_visible
    simp only [Declaration.body, List.forall_mem_cons, toString]
    simp +decide [endsVisibly_append, endsVisibly_identifier, interface]

theorem tidy_errorDeclarations (model : Model) :
    ∀ declaration ∈ model.errorDeclarations, declaration.Tidy := by
  have visible : ∀ declaration ∈ model.errorDeclarations, ∀ line ∈ declaration.body,
      endsVisibly line = true := by
    simp only [Model.errorDeclarations, List.forall_mem_cons, Declaration.body, toString]
    simp +decide [endsVisibly_append]
  exact fun declaration member => Declaration.tidy_of_visible (visible declaration member)

theorem tidy_declarations (sound : model.Sound) :
    ∀ declaration ∈ model.declarations, declaration.Tidy := by
  simp only [Model.declarations, List.forall_mem_append]
  refine ⟨⟨⟨⟨tidy_baseDeclarations sound, ?_⟩, ?_⟩, ?_⟩, tidy_errorDeclarations model⟩
  · exact List.forall_mem_singleton.mpr (tidy_strictLookup model)
  · intro declaration member
    obtain ⟨value, found, rfl⟩ := List.mem_map.mp member
    rw [Option.mem_toList] at found
    exact tidy_fallbackLookup sound (Option.filter_eq_some_iff.mp found).1
  · split
    · exact tidy_jsonDeclarations sound
    · simp

theorem paragraph_importLines (paths : List String) : Paragraph (File.importLines paths) := by
  apply Paragraph.solid (by simp [File.importLines])
  simp only [File.importLines, List.forall_mem_append, List.forall_mem_map,
    List.forall_mem_singleton, toString]
  exact ⟨⟨by decide, fun path _ => endsVisibly_append (by decide)⟩, by decide⟩

/-- The comment block of a license has no blank lines. -/
theorem paragraph_commentBlock {text : String} {block : List String}
    (made : commentBlock text = some block) : Paragraph block := by
  apply Paragraph.solid (commentBlock_ne_nil made)
  intro line member
  obtain ⟨source, spelled⟩ := exists_commentLine made line member
  have nonempty : line.toList ≠ [] := by
    rw [spelled, commentLine]
    split <;> simp
  have trimmed : line.toList.rdropWhile isBlank = line.toList := by
    rw [spelled, ← trimEnd_eq, trimEnd_commentLine]
  have visible := List.rdropWhile_eq_self_iff.mp trimmed nonempty
  rw [endsVisibly, List.getLast?_eq_some_getLast nonempty]
  simpa using visible

end SealedEnum.Source
