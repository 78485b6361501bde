import SealedEnum.Proofs.Source.Header
import SealedEnum.Proofs.Source.Paragraph

namespace SealedEnum

open SealedEnum.Source SealedEnum.Text SealedEnum.Unicode

/-! The layout of a rendered file: its parts in their order, with one blank line between two. -/

inductive Part where
  | header
  | package
  | marker
  | imports
  | base
  | strictLookup
  | fallbackLookup
  | json
  | invalidName
  deriving DecidableEq

namespace Part

/-- In the order of a file. -/
def all : List Part :=
  [.header, .package, .marker, .imports, .base, .strictLookup, .fallbackLookup, .json, .invalidName]

def isPresent (spec : Spec) (license : Option String) : Part → Bool
  | .header => license.any fun text => !isAllBlank text.toList
  | .imports => spec.json.generate
  | .fallbackLookup => spec.undefinedValue.any fun value => !value.isEmpty
  | .json => spec.json.generate
  | .package | .marker | .base | .strictLookup | .invalidName => true

/-- The first lines of what a part consists of, comments apart. -/
def outline (spec : Spec) (part : Part) : List String :=
  let names := DerivedNames.ofType spec.typeName
  match part with
  | .header => []
  | .package => [s!"package {spec.package}"]
  | .marker => []
  | .imports => ["import ("]
  | .base =>
      [s!"type {names.interface} interface \x7b",
        s!"type {names.base} struct \x7b",
        s!"func (b {names.base}) {names.sealMethod}() \x7b\x7d",
        s!"func (b {names.base}) String() string \x7b",
        "var (",
        s!"func Values() []{names.interface} \x7b"]
  | .strictLookup => [s!"func Of(name string) ({names.interface}, error) \x7b"]
  | .fallbackLookup => [s!"func OfOrUndefined(name string) {names.interface} \x7b"]
  | .json =>
      [s!"type {names.marshallable} struct \x7b",
        s!"func (m {names.marshallable}) MarshalJSON() ([]byte, error) \x7b",
        s!"func (m *{names.marshallable}) UnmarshalJSON(jsonBytes []byte) error \x7b",
        s!"func (b {names.base}) ToMarshallable() {names.marshallable} \x7b",
        s!"func (m {names.marshallable}) FromMarshallable() {names.interface} \x7b"]
  | .invalidName =>
      [s!"type {names.invalidNameError} struct \x7b",
        s!"func (e {names.invalidNameError}) Error() string \x7b",
        s!"func (e {names.invalidNameError}) Name() string \x7b",
        s!"func {names.invalidNameConstructor}(name string) {names.invalidNameError} \x7b"]

def declares (spec : Spec) (part : Part) : List String :=
  let names := DerivedNames.ofType spec.typeName
  match part with
  | .header | .package | .marker | .imports => []
  | .base =>
      [names.interface, names.base] ++ spec.values ++ ["allValues", "allValuesByString", "Values"]
  | .strictLookup => ["Of"]
  | .fallbackLookup => ["OfOrUndefined"]
  | .json => [names.marshallable]
  | .invalidName => [names.invalidNameError, names.invalidNameConstructor]

end Part

/-- Every line ends in a line feed and holds no white space before it, no blank line follows
another, and text stands in the first and in the last line. -/
structure LaidOut (text : String) : Prop where
  joins : text = joined (linesOf text)
  starts : ∃ line ∈ (linesOf text).head?, isAllBlank line.toList = false
  ends : ∃ front c, text.toList = front ++ [c, '\n'] ∧ isBlank c = false
  spaced : (linesOf text).IsChain fun line next =>
    isAllBlank line.toList = false ∨ isAllBlank next.toList = false
  trimmed : ∀ line ∈ linesOf text, trimEnd line.toList = line.toList

/-! The parts of a model. -/

namespace Model

def declarationsOf (model : Model) : Part → List Declaration
  | .header | .package | .marker | .imports => []
  | .base => model.baseDeclarations
  | .strictLookup => [model.strictLookup]
  | .fallbackLookup =>
      (model.undefined.filter fun _ => model.has .fallbackLookup).toList.map model.fallbackLookup
  | .json => if model.has .jsonCodec then model.jsonDeclarations else []
  | .invalidName => model.errorDeclarations

/-- The sections above the declarations. -/
def clausesOf (model : Model) : Part → List (List String)
  | .header => model.file.header.toList
  | .package => [[s!"package {model.package}"]]
  | .marker => [[File.generatedMarker]]
  | .imports => if model.imports.isEmpty then [] else [File.importLines model.imports]
  | .base | .strictLookup | .fallbackLookup | .json | .invalidName => []

def sectionsOf (model : Model) (part : Part) : List (List String) :=
  model.clausesOf part ++ (model.declarationsOf part).map Declaration.lines

variable {model : Model}

theorem flatMap_declarationsOf (model : Model) :
    Part.all.flatMap model.declarationsOf = model.declarations := by
  simp [Part.all, declarationsOf, declarations]

theorem flatMap_sectionsOf (model : Model) :
    Part.all.flatMap model.sectionsOf = model.file.sections := by
  simp [Part.all, sectionsOf, clausesOf, declarationsOf, File.sections, file, declarations]

theorem subset_declarationsOf (part : Part) :
    ∀ declaration ∈ model.declarationsOf part, declaration ∈ model.declarations := by
  intro declaration member
  rw [← flatMap_declarationsOf, List.mem_flatMap]
  exact ⟨part, by cases part <;> decide, member⟩

/-- A part is there exactly if the specification or the license asks for it. -/
theorem isPresent_iff (spec : Spec) (license : Option String) (part : Part) :
    part.isPresent spec license = true ↔ (ofSpec spec license).sectionsOf part ≠ [] := by
  have json := ofSpec_json_isSome spec license
  cases part with
  | header =>
      have made : ∀ text, (commentBlock text).isSome = !isAllBlank text.toList := by
        intro text
        cases blank : isAllBlank text.toList <;> simp [commentBlock, blank]
      cases license with
      | none => simp [Part.isPresent, sectionsOf, clausesOf, declarationsOf, file, ofSpec]
      | some text =>
          simp [Part.isPresent, sectionsOf, clausesOf, declarationsOf, file, ofSpec, ← made,
            Option.isSome_iff_ne_none]
  | package | marker | base | strictLookup | invalidName =>
      simp [Part.isPresent, sectionsOf, clausesOf, declarationsOf, baseDeclarations,
        errorDeclarations]
  | imports =>
      simp only [Part.isPresent, sectionsOf, clausesOf, declarationsOf, imports_eq, json]
      cases spec.json.generate with
      | false => simp
      | true => cases (ofSpec spec license).decodeFallback.isSome <;> simp
  | fallbackLookup =>
      simp only [Part.isPresent, sectionsOf, clausesOf, declarationsOf, has_fallbackLookup]
      simp only [ofSpec, Spec.undefined?]
      cases spec.undefinedValue with
      | none => simp
      | some value => by_cases empty : value = "" <;> simp [Option.filter, empty]
  | json =>
      simp only [Part.isPresent, sectionsOf, clausesOf, declarationsOf, has_jsonCodec, json]
      cases spec.json.generate <;> simp [jsonDeclarations]

/-! What each section of a part is. -/

theorem paragraph_sectionsOf (sound : model.Sound) (part : Part) :
    ∀ lines ∈ model.sectionsOf part, Paragraph lines := by
  have declared : ∀ lines ∈ (model.declarationsOf part).map Declaration.lines,
      Paragraph lines := by
    rw [List.forall_mem_map]
    intro declaration member
    have tidy := tidy_declarations sound declaration (subset_declarationsOf part _ member)
    exact tidy.paragraph
  refine List.forall_mem_append.mpr ⟨fun lines member => ?_, declared⟩
  cases part with
  | header =>
      obtain ⟨text, _, made⟩ := Option.bind_eq_some_iff.mp (Option.mem_toList.mp member)
      exact paragraph_commentBlock made
  | package =>
      rw [List.mem_singleton.mp member]
      exact .single (endsVisibly_append (endsVisibly_identifier sound.package_identifier))
  | marker =>
      rw [List.mem_singleton.mp member]
      exact .single (by decide)
  | imports =>
      rw [clausesOf] at member
      split at member
      · contradiction
      · rw [List.mem_singleton.mp member]
        exact paragraph_importLines model.imports
  | base | strictLookup | fallbackLookup | json | invalidName => contradiction

theorem plain_sectionsOf (sound : model.Sound) {part : Part} (code : part ≠ .header) :
    ∀ lines ∈ model.sectionsOf part, ∀ line ∈ lines, Plain line := by
  have declared : ∀ lines ∈ (model.declarationsOf part).map Declaration.lines,
      ∀ line ∈ lines, Plain line := by
    rw [List.forall_mem_map]
    intro declaration member line inside
    have texts := unbroken_of_mem_texts sound declaration (subset_declarationsOf part _ member)
    exact ⟨declaration.unspaced_lines line inside,
      (Declaration.unbroken_of_mem_lines texts line inside).2⟩
  refine List.forall_mem_append.mpr ⟨fun lines member => ?_, declared⟩
  cases part with
  | header => contradiction
  | package =>
      rw [List.mem_singleton.mp member, List.forall_mem_singleton]
      have package := unbroken_of_isIdentifier sound.package_identifier
      exact ⟨by simp [toString], (unbroken_append.mpr ⟨by decide, package⟩).2⟩
  | marker =>
      rw [List.mem_singleton.mp member, List.forall_mem_singleton]
      exact ⟨by decide, by decide⟩
  | imports =>
      rw [clausesOf] at member
      split at member
      · contradiction
      · rw [List.mem_singleton.mp member]
        refine fun line inside => ⟨?_, (unbroken_of_mem_importLines model line inside).2⟩
        revert line
        simp only [File.importLines, List.forall_mem_append, List.forall_mem_map,
          List.forall_mem_singleton, toString]
        simp
  | base | strictLookup | fallbackLookup | json | invalidName => contradiction

end Model

/-! The parts as they are written. -/

namespace Source

theorem intercalate_flatMap {α : Type} {separator : List String} {keys : List α}
    {groups : α → List (List String)} {present : α → Bool}
    (nonempty : ∀ key ∈ keys, present key = true ↔ groups key ≠ []) :
    List.intercalate separator (keys.flatMap groups) =
      List.intercalate separator
        ((keys.filter present).map fun key => List.intercalate separator (groups key)) := by
  -- With the separator in front of every group, an absent key leaves no trace.
  rw [intercalate_eq_drop, intercalate_eq_drop separator (List.map _ _)]
  congr 1
  induction keys with
  | nil => rfl
  | cons key rest ih =>
      obtain ⟨here, later⟩ := List.forall_mem_cons.mp nonempty
      rw [List.flatMap_cons, List.flatMap_append, ih later]
      cases found : present key with
      | true =>
          obtain ⟨first, others, spelled⟩ := List.exists_cons_of_ne_nil (here.mp found)
          simp [found, spelled, intercalate_cons]
      | false =>
          have empty : groups key = [] := by
            by_contra some
            simp [here.mpr some] at found
          simp [found, empty]

theorem laidOut_joined {lines : List String} (paragraph : Paragraph lines)
    (whole : ∀ line ∈ lines, '\n' ∉ line.toList) : LaidOut (joined lines) := by
  have read := linesOf_joined whole
  constructor
  · rw [read]
  · obtain ⟨line, head, visible⟩ := paragraph.starts
    exact ⟨line, by rw [read, head]; rfl, isAllBlank_of_endsVisibly visible⟩
  · obtain ⟨line, last, visible⟩ := paragraph.ends
    obtain ⟨before, rfl⟩ := List.getLast?_eq_some_iff.mp last
    obtain ⟨front, c, spelled, shown⟩ := exists_last_of_endsVisibly visible
    refine ⟨(joined before).toList ++ front, c, ?_, shown⟩
    simp [joined, spelled]
  · rw [read]
    exact paragraph.spaced.imp fun line next apart =>
      apart.imp isAllBlank_of_endsVisibly isAllBlank_of_endsVisibly
  · rw [read]
    intro line member
    rcases paragraph.trimmed line member with rfl | visible
    · rfl
    · exact trimEnd_of_endsVisibly visible

end Source

namespace Model

variable {model : Model}

/-- What the sections above the declarations are read as. -/
def clauseBlocksOf (model : Model) : Part → List (List Block)
  | .header => model.file.header.toList.map fun _ => []
  | .package => [[⟨s!"package {model.package}", []⟩]]
  | .marker => [[]]
  | .imports => if model.imports.isEmpty then [] else [importBlocks model.imports]
  | .base | .strictLookup | .fallbackLookup | .json | .invalidName => []

theorem readsAs_clausesOf (sound : model.Sound) (part : Part) :
    List.Forall₂ ReadsAs (model.clausesOf part) (model.clauseBlocksOf part) := by
  cases part with
  | header => exact readsAs_header fun _ header => isComment_of_mem_header header
  | package => exact .cons (readsAs_package sound.package_identifier) .nil
  | marker => exact .cons (.skip (.inr (by decide))) .nil
  | imports => exact readsAs_imports model.imports
  | base | strictLookup | fallbackLookup | json | invalidName => exact .nil

theorem blocks_sectionsOf (sound : model.Sound) (part : Part) :
    blocks (List.intercalate [""] (model.sectionsOf part)) =
      (model.clauseBlocksOf part).flatten
        ++ (model.declarationsOf part).map Declaration.block := by
  have written := readsAs_declarations (model.declarationsOf part)
  have whole := ReadsAs.intercalate (List.rel_append (readsAs_clausesOf sound part) written) []
  rw [List.append_nil, List.flatten_append, ← List.flatMap_def, ← List.map_eq_flatMap] at whole
  exact whole.trans (List.append_nil _)

theorem declarationsOf_fallbackLookup {spec : Spec} {license : Option String}
    (present : Part.isPresent spec license .fallbackLookup = true) :
    ∃ value, (ofSpec spec license).declarationsOf .fallbackLookup =
      [(ofSpec spec license).fallbackLookup value] := by
  have given : (ofSpec spec license).sectionsOf .fallbackLookup ≠ [] :=
    (isPresent_iff spec license .fallbackLookup).mp present
  simp only [sectionsOf, clausesOf, declarationsOf, has_fallbackLookup] at given ⊢
  cases undefined : (ofSpec spec license).undefined with
  | none => simp [undefined] at given
  | some value => exact ⟨value, rfl⟩

theorem declarationsOf_json {spec : Spec} {license : Option String}
    (present : Part.isPresent spec license .json = true) :
    (ofSpec spec license).declarationsOf .json = (ofSpec spec license).jsonDeclarations := by
  have generates : (ofSpec spec license).json.isSome = true :=
    (ofSpec_json_isSome spec license).trans present
  rw [declarationsOf, has_jsonCodec, if_pos generates]

theorem clauseBlocksOf_header (model : Model) : (model.clauseBlocksOf .header).flatten = [] := by
  unfold clauseBlocksOf
  cases model.file.header <;> rfl

theorem clauseBlocksOf_imports {spec : Spec} {license : Option String}
    (present : Part.isPresent spec license .imports = true) :
    ∃ body, ((ofSpec spec license).clauseBlocksOf .imports).flatten = [⟨"import (", body⟩] := by
  have given := (isPresent_iff spec license .imports).mp present
  simp only [sectionsOf, clausesOf, clauseBlocksOf, declarationsOf, importBlocks] at given ⊢
  split at given
  · contradiction
  · exact ⟨_, by simp_all; rfl⟩

/-- A part that is there consists of its declarations. -/
theorem outline_sectionsOf {spec : Spec} {license : Option String} {part : Part}
    (sound : (ofSpec spec license).Sound) (present : part.isPresent spec license = true) :
    (blocks (List.intercalate [""] ((ofSpec spec license).sectionsOf part))).map Block.opening =
      part.outline spec := by
  rw [blocks_sectionsOf sound]
  cases part with
  | header =>
      rw [clauseBlocksOf_header]
      rfl
  | package | marker => rfl
  | imports =>
      obtain ⟨body, spelled⟩ := clauseBlocksOf_imports present
      rw [spelled]
      rfl
  | base =>
      simp [clauseBlocksOf, declarationsOf, baseDeclarations, Declaration.block, bracedBlock,
        Registry.block, Part.outline, names, ofSpec, toString, ← String.toList_inj]
  | strictLookup =>
      simp [clauseBlocksOf, declarationsOf, strictLookup, Declaration.block, bracedBlock,
        Part.outline, names, ofSpec, toString, ← String.toList_inj]
  | fallbackLookup =>
      obtain ⟨value, spelled⟩ := declarationsOf_fallbackLookup present
      rw [spelled]
      simp [clauseBlocksOf, fallbackLookup, Declaration.block, bracedBlock, Part.outline, names,
        ofSpec, toString, ← String.toList_inj]
  | json =>
      obtain ⟨first, others, body⟩ := exists_decodeBody_eq_cons (ofSpec spec license)
      rw [declarationsOf_json present, jsonDeclarations, body]
      simp [clauseBlocksOf, Declaration.block, bracedBlock, Part.outline, names, ofSpec, toString,
        ← String.toList_inj]
  | invalidName =>
      simp [clauseBlocksOf, declarationsOf, errorDeclarations, Declaration.block, bracedBlock,
        Part.outline, names, ofSpec, toString, ← String.toList_inj]

theorem declares_sectionsOf {spec : Spec} {license : Option String} {part : Part}
    (sound : (ofSpec spec license).Sound) (present : part.isPresent spec license = true) :
    (blocks (List.intercalate [""] ((ofSpec spec license).sectionsOf part))).flatMap
      Block.declares = part.declares spec := by
  have named : ∀ declaration ∈ (ofSpec spec license).declarationsOf part, declaration.Named :=
    fun declaration member =>
      named_of_mem_declarations sound declaration (subset_declarationsOf part declaration member)
  have clauses :
      ((ofSpec spec license).clauseBlocksOf part).flatten.flatMap Block.declares = [] := by
    cases part with
    | header =>
        rw [clauseBlocksOf_header]
        rfl
    | package => simp [clauseBlocksOf, Block.declares_package]
    | imports =>
        obtain ⟨body, spelled⟩ := clauseBlocksOf_imports present
        rw [spelled, List.flatMap_singleton]
        exact Block.declares_eq_nil (c := 'i') (by simp) (by decide) (by decide) (by simp)
    | marker | base | strictLookup | fallbackLookup | json | invalidName => rfl
  rw [blocks_sectionsOf sound, List.flatMap_append, clauses, List.nil_append,
    declares_declarations named]
  cases part with
  | header | package | marker | imports => rfl
  | base =>
      simp [declarationsOf, baseDeclarations, Part.declares, Declaration.declares,
        Registry.declares, registry, names, ofSpec]
  | strictLookup => rfl
  | fallbackLookup =>
      obtain ⟨value, spelled⟩ := declarationsOf_fallbackLookup present
      rw [spelled]
      rfl
  | json =>
      rw [declarationsOf_json present]
      rfl
  | invalidName => rfl

theorem header_sectionsOf {spec : Spec} {license : Option String}
    (present : Part.isPresent spec license .header = true) :
    license.bind commentBlock =
      some (List.intercalate [""] ((ofSpec spec license).sectionsOf .header)) := by
  have given := (isPresent_iff spec license .header).mp present
  have header : (ofSpec spec license).file.header = license.bind commentBlock := rfl
  simp only [sectionsOf, clausesOf, declarationsOf, header] at given ⊢
  cases made : license.bind commentBlock with
  | none => simp [made] at given
  | some block => simp

end Model

/-- Whatever the specification and the license ask for, a rendered file is laid out in one way: its
parts follow each other in their order, one blank line apart, and each is there only if it is asked
for. -/
theorem render_layout (spec : Spec) (license : Option String)
    (accepted : spec.validate = .ok ()) :
    let text := (Model.ofSpec spec license).render
    LaidOut text ∧
      ∃ content : Part → List String,
        linesOf text = List.intercalate [""]
          ((Part.all.filter (·.isPresent spec license)).map content) ∧
        ∀ part : Part, part.isPresent spec license = true →
          (∃ line ∈ (content part).head?, isAllBlank line.toList = false) ∧
          (∃ line ∈ (content part).getLast?, isAllBlank line.toList = false) ∧
          (blocks (content part)).map Block.opening = part.outline spec ∧
          (blocks (content part)).flatMap Block.declares = part.declares spec ∧
          (part = .header → license.bind commentBlock = some (content part)) ∧
          (part = .marker → content part = [File.generatedMarker]) ∧
          (part ≠ .header → ∀ line ∈ content part,
            line.toList.head? ≠ some ' ' ∧ '\r' ∉ line.toList) := by
  intro text
  let model := Model.ofSpec spec license
  have sound : model.Sound := (Spec.validate_eq_ok_iff.mp accepted).sound license
  have paragraphs : ∀ part, part.isPresent spec license = true →
      Paragraph (List.intercalate [""] (model.sectionsOf part)) := fun part present =>
    .intercalate ((Model.isPresent_iff spec license part).mp present)
      (Model.paragraph_sectionsOf sound part)
  have lines : model.file.lines = List.intercalate [""]
      ((Part.all.filter (·.isPresent spec license)).map fun part =>
        List.intercalate [""] (model.sectionsOf part)) := by
    rw [File.lines, ← Model.flatMap_sectionsOf]
    exact intercalate_flatMap fun part _ => Model.isPresent_iff spec license part
  have whole : Paragraph model.file.lines := by
    rw [lines]
    apply Paragraph.intercalate
    · simp [Part.all, Part.isPresent]
    · rw [List.forall_mem_map]
      exact fun part member => paragraphs part (List.mem_filter.mp member).2
  refine ⟨laidOut_joined whole (whole_of_mem_lines sound),
    fun part => List.intercalate [""] (model.sectionsOf part),
    (linesOf_render sound).trans lines, fun part present => ?_⟩
  obtain ⟨⟨first, head, shown⟩, ⟨last, foot, visible⟩, _, _⟩ := paragraphs part present
  refine ⟨⟨first, head, isAllBlank_of_endsVisibly shown⟩,
    ⟨last, foot, isAllBlank_of_endsVisibly visible⟩, Model.outline_sectionsOf sound present,
    Model.declares_sectionsOf sound present, ?_, ?_, ?_⟩
  · rintro rfl
    exact Model.header_sectionsOf present
  · rintro rfl
    rfl
  · intro code line member
    rcases mem_of_mem_intercalate member with rfl | ⟨lines, among, inside⟩
    · exact ⟨by simp, by simp⟩
    · obtain ⟨unspaced, unreturned⟩ := Model.plain_sectionsOf sound code lines among line inside
      exact ⟨unspaced, unreturned⟩

theorem render_layout_affixSpec :
    affixSpec.validate = .ok () ∧
      LaidOut (Model.ofSpec affixSpec (some "one\rtwo\n\n three ")).render := by
  have accepted : affixSpec.validate = .ok () := rfl
  exact ⟨accepted, (render_layout affixSpec (some "one\rtwo\n\n three ") accepted).1⟩

end SealedEnum
