import Mathlib.Data.List.Forall2
import SealedEnum.Proofs.Source.Lines

namespace SealedEnum.Source

open SealedEnum.Identifier

/-! Reading the top level of a source file from its lines. -/

/-- A line in the first column, and the lines below it up to a closing one. -/
structure Block where
  opening : String
  body : List String
  deriving DecidableEq

def isComment (line : String) : Bool :=
  ['/', '/'].isPrefixOf line.toList

def isOpening (line : String) : Bool :=
  line.toList.getLast? = some '\x7b' || line.toList.getLast? = some '('

def isClosing (line : String) : Bool :=
  line = "\x7d" || line = ")"

/-- Lines belong to the block that is open; blank lines and comments between blocks do not count. -/
def blocksAfter : Option Block → List String → List Block
  | none, [] => []
  | some block, [] => [block]
  | none, line :: rest =>
      if line = "" || isComment line then blocksAfter none rest
      else if isOpening line then blocksAfter (some ⟨line, []⟩) rest
      else ⟨line, []⟩ :: blocksAfter none rest
  | some block, line :: rest =>
      if isClosing line then block :: blocksAfter none rest
      else blocksAfter (some ⟨block.opening, block.body ++ [line]⟩) rest

def blocks (lines : List String) : List Block :=
  blocksAfter none lines

/-- Lines that are read as some blocks, whatever lines follow. -/
def ReadsAs (lines : List String) (found : List Block) : Prop :=
  ∀ rest, blocks (lines ++ rest) = found ++ blocks rest

namespace ReadsAs

theorem nil : ReadsAs [] [] := by
  intro rest
  rfl

theorem append {first second : List String} {earlier later : List Block}
    (before : ReadsAs first earlier) (after : ReadsAs second later) :
    ReadsAs (first ++ second) (earlier ++ later) := by
  intro rest
  rw [List.append_assoc, before, after, List.append_assoc]

theorem skip {line : String} (idle : line = "" ∨ isComment line = true) :
    ReadsAs [line] [] := by
  intro rest
  rcases idle with blank | comment
  · simp [blocks, blocksAfter, blank]
  · simp [blocks, blocksAfter, comment]

theorem comments {lines : List String} (all : ∀ line ∈ lines, isComment line = true) :
    ReadsAs lines [] := by
  induction lines with
  | nil => exact nil
  | cons line rest ih =>
      exact append (skip (.inr (all line (by simp))))
        (ih fun other member => all other (List.mem_cons_of_mem line member))

theorem single {line : String} (named : line ≠ "") (code : isComment line = false)
    (closed : isOpening line = false) : ReadsAs [line] [⟨line, []⟩] := by
  intro rest
  simp [blocks, blocksAfter, named, code, closed]

theorem blocksAfter_body {block : Block} {body : List String} {closing : String}
    (inside : ∀ line ∈ body, isClosing line = false) (closes : isClosing closing = true)
    (rest : List String) :
    blocksAfter (some block) (body ++ closing :: rest) =
      ⟨block.opening, block.body ++ body⟩ :: blocks rest := by
  induction body generalizing block with
  | nil => simp [blocksAfter, blocks, closes]
  | cons line others ih =>
      have within := inside line (by simp)
      rw [List.cons_append, blocksAfter, if_neg (by simp [within]),
        ih fun other member => inside other (List.mem_cons_of_mem line member)]
      simp

theorem block {opening closing : String} {body : List String}
    (code : isComment opening = false) (opens : isOpening opening = true)
    (inside : ∀ line ∈ body, isClosing line = false) (closes : isClosing closing = true) :
    ReadsAs ([opening] ++ body ++ [closing]) [⟨opening, body⟩] := by
  intro rest
  have named : opening ≠ "" := by
    rintro rfl
    contradiction
  rw [blocks, List.append_assoc, List.append_assoc, List.singleton_append, blocksAfter,
    if_neg (by simp [named, code]), if_pos opens, List.singleton_append,
    blocksAfter_body inside closes]
  rfl

theorem intercalate {sections : List (List String)} {found : List (List Block)}
    (each : List.Forall₂ ReadsAs sections found) :
    ReadsAs (List.intercalate [""] sections) found.flatten := by
  induction each with
  | nil => exact nil
  | @cons lines here rest later first _ ih =>
      cases rest with
      | nil =>
          rename_i remaining
          cases remaining
          simpa using first
      | cons second others =>
          rw [List.intercalate_cons_cons, List.flatten_cons]
          exact append (by simpa using append first (skip (.inl rfl))) ih

end ReadsAs

/-! The block each declaration is read as. -/

def bracedBlock (opening : String) (body : List String) : Block :=
  if body.isEmpty then ⟨opening ++ " \x7b\x7d", []⟩
  else ⟨opening ++ " \x7b", body.map Declaration.indent⟩

def Registry.block (registry : Registry) : Block where
  opening := "var ("
  body := registry.singletonLines
    ++ [""] ++ registry.listLines
    ++ [""] ++ registry.tableLines

def Declaration.block : Declaration → Block
  | .interface name methods => bracedBlock s!"type {name} interface" methods
  | .record name fields => bracedBlock s!"type {name} struct" fields
  | .valueRegistry registry => registry.block
  | .function name signature body => bracedBlock s!"func {name}{signature}" body
  | .method receiver name signature body =>
      bracedBlock s!"func ({receiver.name} {receiver.type}) {name}{signature}" body

theorem head?_append {c : Char} {beginning : String} (rest : String)
    (first : beginning.toList.head? = some c) :
    (beginning ++ rest).toList.head? = some c := by
  rw [String.toList_append, List.head?_append, first]
  rfl

theorem isClosing_append {c : Char} {beginning rest : String}
    (first : beginning.toList.head? = some c)
    (brace : c ≠ '\x7d') (parenthesis : c ≠ ')') :
    isClosing (beginning ++ rest) = false := by
  have other : ∀ closing : String, closing.toList.head? ≠ some c →
      beginning ++ rest ≠ closing := by
    intro closing different same
    exact different (same ▸ head?_append rest first)
  simp only [isClosing, Bool.or_eq_false_iff, decide_eq_false_iff_not]
  exact ⟨other _ (by simpa using Ne.symm brace), other _ (by simpa using Ne.symm parenthesis)⟩

theorem isClosing_indent (line : String) : isClosing (Declaration.indent line) = false := by
  unfold Declaration.indent
  split
  · rename_i empty
    rw [String.isEmpty_iff.mp empty]
    rfl
  · exact isClosing_append (c := '\t') (by simp) (by decide) (by decide)

theorem readsAs_braced {opening : String} (code : ∀ rest, isComment (opening ++ rest) = false)
    (body : List String) :
    ReadsAs (Declaration.braced opening body) [bracedBlock opening body] := by
  unfold Declaration.braced bracedBlock
  split
  · refine ReadsAs.single ?_ (code _) ?_
    · intro empty
      simpa using congrArg String.toList empty
    · simp [isOpening]
  · refine ReadsAs.block (code _) ?_ ?_ rfl
    · simp [isOpening]
    · intro line member
      obtain ⟨inner, _, rfl⟩ := List.mem_map.mp member
      exact isClosing_indent inner

theorem Registry.readsAs_lines (registry : Registry) :
    ReadsAs registry.lines [registry.block] := by
  have shape : registry.lines = ["var ("] ++ registry.block.body ++ [")"] := by
    simp [Registry.lines, Registry.block]
  rw [shape]
  have tabbed : ∀ {beginning rest : String}, beginning.toList.head? = some '\t' →
      isClosing (beginning ++ rest) = false :=
    fun first => isClosing_append first (by decide) (by decide)
  refine ReadsAs.block (by decide) (by decide) ?_ (by decide)
  simp only [Registry.block, Registry.singletonLines, Registry.listLines, Registry.tableLines,
    List.forall_mem_append, List.forall_mem_map, List.forall_mem_singleton, toString,
    String.append_assoc]
  refine ⟨⟨⟨⟨?_, by decide⟩, ⟨?_, ?_⟩, by decide⟩, by decide⟩, ⟨?_, ?_⟩, by decide⟩
  · exact fun value _ => tabbed (by simp)
  · exact tabbed (by simp)
  · exact fun value _ => tabbed (by simp)
  · exact tabbed (by simp)
  · exact fun value _ => tabbed (by simp)

theorem isComment_append {c : Char} {beginning rest : String}
    (first : beginning.toList.head? = some c) (code : c ≠ '/') :
    isComment (beginning ++ rest) = false := by
  obtain ⟨others, spelled⟩ := List.head?_eq_some_iff.mp (head?_append rest first)
  simp [isComment, spelled, List.isPrefixOf, Ne.symm code]

theorem Declaration.readsAs_lines (declaration : Declaration) :
    ReadsAs declaration.lines [declaration.block] := by
  cases declaration with
  | valueRegistry registry => exact registry.readsAs_lines
  | interface name methods | record name fields =>
      apply readsAs_braced
      intro rest
      simp only [toString, String.append_assoc]
      exact isComment_append (c := 't') (by simp) (by decide)
  | function name signature body | method receiver name signature body =>
      apply readsAs_braced
      intro rest
      simp only [toString, String.append_assoc]
      exact isComment_append (c := 'f') (by simp) (by decide)

/-! The blocks of a whole file. -/

def importBlocks (imports : List String) : List Block :=
  if imports.isEmpty then []
  else [⟨"import (", imports.map fun name => s!"\t\"{name}\""⟩]

theorem readsAs_importLines (imports : List String) :
    ReadsAs (File.importLines imports)
      [⟨"import (", imports.map fun name => s!"\t\"{name}\""⟩] := by
  refine ReadsAs.block (by decide) (by decide) ?_ (by decide)
  intro line member
  obtain ⟨name, _, rfl⟩ := List.mem_map.mp member
  simp only [toString, String.append_assoc]
  exact isClosing_append (c := '\t') (by simp) (by decide) (by decide)

theorem readsAs_package {package : String} (identifier : isIdentifier package = true) :
    ReadsAs [s!"package {package}"] [⟨s!"package {package}", []⟩] := by
  refine ReadsAs.single ?_
    (isComment_append (c := 'p') (by simp [toString]) (by decide)) ?_
  · intro empty
    simpa [toString] using congrArg String.toList empty
  · obtain ⟨c, rest, spelled, _, _⟩ := isIdentifier_iff.mp identifier
    have last : ∀ brace : Char, isPart brace = false →
        s!"package {package}".toList.getLast? ≠ some brace := by
      intro brace outside ends
      have member : brace ∈ package.toList := by
        apply List.mem_of_getLast? (l := package.toList)
        simpa [toString, spelled, List.getLast?_append] using ends
      exact not_mem_of_isIdentifier identifier outside member
    simp only [isOpening, Bool.or_eq_false_iff, decide_eq_false_iff_not]
    exact ⟨last _ (by decide), last _ (by decide)⟩

/-- What each section of a file is read as. -/
def File.sectionBlocks (file : File) : List (List Block) :=
  file.header.toList.map (fun _ => [])
    ++ [[⟨s!"package {file.package}", []⟩], []]
    ++ (if file.imports.isEmpty then [] else [importBlocks file.imports])
    ++ file.declarations.map fun declaration => [declaration.block]

theorem readsAs_header {header : Option (List String)}
    (comments : ∀ lines, header = some lines → ∀ line ∈ lines, isComment line = true) :
    List.Forall₂ ReadsAs header.toList (header.toList.map fun _ => []) := by
  cases header with
  | none => exact .nil
  | some lines => exact .cons (ReadsAs.comments (comments lines rfl)) .nil

theorem readsAs_imports (imports : List String) :
    List.Forall₂ ReadsAs (if imports.isEmpty then [] else [File.importLines imports])
      (if imports.isEmpty then [] else [importBlocks imports]) := by
  unfold importBlocks
  split
  · exact .nil
  · exact .cons (readsAs_importLines imports) .nil

theorem readsAs_declarations (declarations : List Declaration) :
    List.Forall₂ ReadsAs (declarations.map Declaration.lines)
      (declarations.map fun declaration => [declaration.block]) := by
  induction declarations with
  | nil => exact .nil
  | cons declaration rest ih => exact .cons declaration.readsAs_lines ih

theorem File.readsAs_sections {file : File} (package : isIdentifier file.package = true)
    (header : ∀ lines, file.header = some lines → ∀ line ∈ lines, isComment line = true) :
    List.Forall₂ ReadsAs file.sections file.sectionBlocks := by
  have marker : ReadsAs [generatedMarker] [] := ReadsAs.skip (.inr (by decide))
  have clauses := List.Forall₂.cons (readsAs_package package) (.cons marker .nil)
  exact List.rel_append (List.rel_append (List.rel_append (readsAs_header header) clauses)
    (readsAs_imports file.imports)) (readsAs_declarations file.declarations)

theorem File.flatten_sectionBlocks (file : File) :
    file.sectionBlocks.flatten =
      [⟨s!"package {file.package}", []⟩] ++ importBlocks file.imports
        ++ file.declarations.map Declaration.block := by
  have header : (file.header.toList.map fun _ => ([] : List Block)).flatten = [] := by
    cases file.header <;> rfl
  have imports : (if file.imports.isEmpty then [] else [importBlocks file.imports]).flatten =
      importBlocks file.imports := by
    unfold importBlocks
    split <;> simp
  have declarations : (file.declarations.map fun declaration => [declaration.block]).flatten =
      file.declarations.map Declaration.block := by
    rw [← List.flatMap_def]
    exact List.map_eq_flatMap.symm
  simp only [File.sectionBlocks, List.flatten_append, header, imports, declarations]
  rfl

/-- Apart from its header and marker, a file is its package clause, its imports and its
declarations. -/
theorem File.blocks_lines {file : File} (package : isIdentifier file.package = true)
    (header : ∀ lines, file.header = some lines → ∀ line ∈ lines, isComment line = true) :
    blocks file.lines =
      [⟨s!"package {file.package}", []⟩] ++ importBlocks file.imports
        ++ file.declarations.map Declaration.block := by
  have whole := ReadsAs.intercalate (File.readsAs_sections package header) []
  rw [List.append_nil, File.flatten_sectionBlocks] at whole
  exact whole.trans (List.append_nil _)

theorem isComment_of_mem_commentBlock {text : String} {block : List String}
    (made : commentBlock text = some block) : ∀ line ∈ block, isComment line = true := by
  simp only [commentBlock] at made
  split at made
  · contradiction
  · cases made
    intro line member
    obtain ⟨characters, found, rfl⟩ := List.mem_map.mp member
    rw [isComment, String.toList_ofList]
    rcases List.mem_append.mp found with inside | last
    · obtain ⟨original, _, rfl⟩ := List.mem_map.mp inside
      unfold commentLine
      split <;> rfl
    · rw [List.mem_singleton.mp last]
      rfl

theorem isComment_of_mem_header {model : Model} {lines : List String}
    (header : model.file.header = some lines) : ∀ line ∈ lines, isComment line = true := by
  obtain ⟨text, _, made⟩ := Option.bind_eq_some_iff.mp header
  exact isComment_of_mem_commentBlock made

/-- No license text can be taken for a part of the program. -/
theorem blocks_render {model : Model} (sound : model.Sound) :
    blocks (linesOf model.render) =
      [⟨s!"package {model.package}", []⟩] ++ importBlocks model.imports
        ++ model.declarations.map Declaration.block := by
  rw [linesOf_render sound]
  exact File.blocks_lines (sound.package_identifier : isIdentifier model.file.package = true)
    fun _ header => isComment_of_mem_header header

end SealedEnum.Source
