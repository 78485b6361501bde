import SealedEnum.Proofs.Source.Header
import SealedEnum.Proofs.Source.Mentions
import SealedEnum.Proofs.Source.Recovery

namespace SealedEnum

open SealedEnum.Identifier SealedEnum.Source SealedEnum.Text SealedEnum.Unicode

/-! A rendered file declares or imports whatever its code refers to, and uses what it imports. -/

namespace Source

/-- The path between the quotes of an import. -/
def importPath? (text : List Char) : Option String := do
  let (path, rest) ← literal? (← after? "\"" text)
  if rest = [] then some (String.ofList path) else none

/-- An import stands alone or in a group, where each path has a line of its own. -/
def Block.imports (block : Block) : List String :=
  match after? "import " block.opening.toList with
  | none => []
  | some rest =>
      if rest = ['('] then
        block.body.filterMap fun line => (after? "\t" line.toList).bind importPath?
      else (importPath? rest).toList

def importedPaths (text : String) : List String :=
  (blocks (linesOf text)).flatMap Block.imports

/-- Some member is selected from the name, which is no member itself. -/
def Qualifies (name : String) (code : List Token) : Prop :=
  ∃ earlier later, code = earlier ++ .name name :: .mark '.' :: later ∧
    earlier.getLast? ≠ some (.mark '.')

/-- The names in some code that are no keywords. -/
def mentions (code : List Token) : List String :=
  (namesOf code).filter (!isKeyword ·)

variable {allowed : String → Prop} {lines : List String} {code : List Token} {name : String}

theorem qualifies_of_infix {previous : Token} (other : previous ≠ .mark '.')
    (inside : [previous, .name name, .mark '.'] <:+: code) : Qualifies name code := by
  obtain ⟨earlier, later, rfl⟩ := inside
  exact ⟨earlier ++ [previous], later, by simp, by simpa using other⟩

theorem mem_namesOf_of_qualifies (qualifies : Qualifies name code) : name ∈ namesOf code := by
  obtain ⟨earlier, later, rfl, _⟩ := qualifies
  simp [mem_namesOf]

theorem readFrom_joined (only : ∀ line ∈ lines, MentionsOnly allowed .code line) :
    (readFrom .code (joined lines).toList).mode = .code ∧
      ∀ name ∈ namesOf (readFrom .code (joined lines).toList).found, allowed name := by
  induction lines with
  | nil => exact ⟨rfl, by simp [joined, readFrom, namesOf]⟩
  | cons line others ih =>
      obtain ⟨first, later⟩ := List.forall_mem_cons.mp only
      obtain ⟨ends, names⟩ := ih later
      have spelled : (joined (line :: others)).toList =
          (line.toList ++ ['\n']) ++ (joined others).toList := by
        simp [joined]
      rw [spelled, readFrom_append, first.ends]
      refine ⟨ends, ?_⟩
      rw [Reading.after, namesOf_append, List.forall_mem_append]
      exact ⟨first.names, names⟩

theorem tokens_joined (only : ∀ line ∈ lines, MentionsOnly allowed .code line) :
    tokens (joined lines) = (readFrom .code (joined lines).toList).found := by
  have feed : readFrom .code ['\n'] = ⟨[], .code⟩ := rfl
  rw [tokens, readFrom_append, (readFrom_joined only).1, feed]
  exact List.append_nil _

/-- What the beginning of a line is read as stands in the reading of all lines. -/
theorem infix_tokens_joined {beginning rest : String}
    (only : ∀ line ∈ lines, MentionsOnly allowed .code line) (member : beginning ++ rest ∈ lines) :
    (readFrom .code beginning.toList).found <:+: tokens (joined lines) := by
  rw [tokens_joined only]
  obtain ⟨before, after, rfl⟩ := List.append_of_mem member
  have spelled : (joined (before ++ (beginning ++ rest) :: after)).toList =
      (joined before).toList ++ (beginning.toList ++ (rest.toList ++
        '\n' :: (joined after).toList)) := by
    simp [joined]
  -- No comment or literal is left open above the line.
  have reached := (readFrom_joined (List.forall_mem_append.mp only).1).1
  rw [spelled, readFrom_append, reached, readFrom_append]
  exact List.infix_append' _ _ _

/-- The lines below the package clause. -/
def File.codeLines (file : File) : List String :=
  ([[generatedMarker]] ++ (if file.imports.isEmpty then [] else [importLines file.imports])
    ++ file.declarations.map Declaration.lines).flatMap ("" :: ·)

theorem File.lines_eq {file : File} (bare : file.header = none) :
    file.lines = s!"package {file.package}" :: file.codeLines := by
  rw [File.lines, File.sections, bare]
  exact intercalate_cons [""] [s!"package {file.package}"] _

theorem File.mem_codeLines {file : File} {declaration : Declaration} {line : String}
    (declared : declaration ∈ file.declarations) (member : line ∈ declaration.lines) :
    line ∈ file.codeLines :=
  List.mem_flatMap.mpr ⟨declaration.lines,
    List.mem_append_right _ (List.mem_map_of_mem declared), List.mem_cons_of_mem "" member⟩

end Source

namespace Model

variable {model : Model}

/-- What a file may import. -/
def importLists : List (List String) :=
  [[], ["encoding/json"], ["encoding/json", "fmt"]]

theorem imports_mem_importLists (model : Model) : model.imports ∈ importLists := by
  rw [imports_eq]
  split
  · split <;> decide
  · decide

theorem covers_declarations (sound : model.Sound) :
    ∀ declaration ∈ model.declarations, model.Covers declaration := by
  simp only [declarations, List.forall_mem_append]
  refine ⟨⟨⟨⟨covers_baseDeclarations sound, ?_⟩, ?_⟩, ?_⟩, covers_errorDeclarations sound⟩
  · exact List.forall_mem_singleton.mpr (covers_strictLookup sound)
  · intro declaration member
    obtain ⟨value, found, rfl⟩ := List.mem_map.mp member
    rw [Option.mem_toList] at found
    exact covers_fallbackLookup sound (Option.filter_eq_some_iff.mp found).1
  · split
    · rename_i json
      exact covers_jsonDeclarations sound (has_jsonCodec ▸ json)
    · simp

theorem mentionsOnly_codeLines (sound : model.Sound) :
    ∀ line ∈ model.file.codeLines, MentionsOnly (· ∈ model.scope) .code line := by
  have known := commonWords_subset_scope model
  have fixed : ∀ line ∈ ["", File.generatedMarker, "import (", "\t\"encoding/json\"",
      "\t\"fmt\"", ")"], MentionsOnly (· ∈ model.scope) .code line := by
    simp only [List.forall_mem_cons]
    refine ⟨?_, ?_, ?_, ?_, ?_, ?_, List.forall_mem_nil _⟩
    all_goals exact mentionsOnly_last known (leads_literal (by decide))
  have imported : ∀ paths ∈ importLists, ∀ line ∈ File.importLines paths,
      line ∈ ["import (", "\t\"encoding/json\"", "\t\"fmt\"", ")"] := by
    decide
  intro line member
  rw [File.codeLines, List.mem_flatMap] at member
  obtain ⟨part, among, inside⟩ := member
  rcases List.mem_cons.mp inside with rfl | inside
  · exact fixed "" (by simp)
  rw [List.mem_append, List.mem_append] at among
  rcases among with (marker | imports) | written
  · rw [List.mem_singleton.mp marker] at inside
    exact fixed line (by simp [List.mem_singleton.mp inside])
  · split at imports
    · contradiction
    · rw [List.mem_singleton.mp imports] at inside
      have written := imported model.imports model.imports_mem_importLists line inside
      exact fixed line (List.mem_cons_of_mem _ (List.mem_cons_of_mem _ written))
  · obtain ⟨declaration, declared, rfl⟩ := List.mem_map.mp written
    exact covers_declarations sound declaration declared line inside

/-- The tokens below the package clause. -/
def code (model : Model) : List Token :=
  tokens (joined model.file.codeLines)

theorem tokens_render_eq (sound : model.Sound) (bare : model.file.header = none) :
    tokens model.render = .name "package" :: .name model.package :: model.code := by
  have spelled : model.render.toList = "package ".toList ++ (model.package.toList
      ++ '\n' :: (joined model.file.codeLines).toList) := by
    rw [render, File.text_eq_joined, File.lines_eq bare]
    simp [joined, toString, file]
  have clause : readFrom .code "package ".toList = ⟨[.name "package"], .code⟩ := by
    decide
  have ends := endsName_cons (c := '\n') (by decide)
    ((joined model.file.codeLines).toList ++ ['\n'])
  have feed : readFrom .code ['\n'] = ⟨[], .code⟩ := by
    decide
  have passed := readFrom_append .code ['\n'] ((joined model.file.codeLines).toList ++ ['\n'])
  rw [feed, Reading.after_nil, List.singleton_append] at passed
  rw [tokens, spelled, List.append_assoc, List.append_assoc, readFrom_append, clause,
    List.cons_append, readFrom_name sound.package_identifier ends (by simp), passed]
  rfl

theorem mem_scope_of_mem_code (sound : model.Sound) :
    ∀ name ∈ namesOf model.code, name ∈ model.scope := by
  have only := mentionsOnly_codeLines sound
  rw [code, tokens_joined only]
  exact (readFrom_joined only).2

/-- What a line of a method starts with is part of the code. -/
theorem infix_code (sound : model.Sound) {receiver : Receiver} {name signature : String}
    {body : List String} {beginning rest : String}
    (declared : .method receiver name signature body ∈ model.declarations)
    (written : beginning ++ rest ∈ body) (nonempty : beginning.isEmpty = false) :
    (readFrom .code beginning.toList).found <:+: model.code := by
  have indented : Declaration.indent (beginning ++ rest) = ("\t" ++ beginning) ++ rest := by
    have visible : (beginning ++ rest).isEmpty = false := by
      simp_all
    rw [Declaration.indent, visible, if_neg Bool.false_ne_true, String.append_assoc]
  have member : ("\t" ++ beginning) ++ rest ∈
      (Declaration.method receiver name signature body).lines := by
    have filled : ¬ body.isEmpty = true := by
      simp [List.ne_nil_of_mem written]
    rw [← indented, Declaration.lines, Declaration.braced, if_neg filled]
    simp [List.mem_map_of_mem written]
  have tab : readFrom .code "\t".toList = ⟨[], .code⟩ := by
    decide
  have tabbed : readFrom .code ("\t" ++ beginning).toList = readFrom .code beginning.toList := by
    rw [String.toList_append, readFrom_append, tab, Reading.after_nil]
  rw [← tabbed]
  exact infix_tokens_joined (mentionsOnly_codeLines sound) (File.mem_codeLines declared member)

theorem qualifies_json (sound : model.Sound) (json : model.json.isSome = true) :
    Qualifies "json" model.code := by
  have inside : [.name "return", .name "json", .mark '.'] <:+:
      (readFrom .code "return json.Marshal(m.en.String())".toList).found := by
    decide
  have declared : .method ⟨"m", model.names.marshallable⟩ "MarshalJSON" "() ([]byte, error)"
      ["if m.en == nil \x7b", "\treturn []byte(\"null\"), nil", "\x7d",
        "return json.Marshal(m.en.String())"] ∈ model.declarations := by
    simp [declarations, jsonDeclarations, json]
  have body : "return json.Marshal(m.en.String())" ++ "" ∈
      ["if m.en == nil \x7b", "\treturn []byte(\"null\"), nil", "\x7d",
        "return json.Marshal(m.en.String())"] := by
    simp
  exact qualifies_of_infix (by simp) (inside.trans (infix_code sound declared body (by decide)))

theorem qualifies_fmt (sound : model.Sound) (json : model.json.isSome = true)
    (strict : model.decodeFallback = none) : Qualifies "fmt" model.code := by
  have inside : [.name "return", .name "fmt", .mark '.'] <:+:
      (readFrom .code "\treturn fmt.Errorf(".toList).found := by
    decide
  have declared : .method ⟨"m", "*" ++ model.names.marshallable⟩ "UnmarshalJSON"
      "(jsonBytes []byte) error" model.decodeBody ∈ model.declarations := by
    simp [declarations, jsonDeclarations, json]
  let failure := s!"\"could not unmarshal {model.typeName} from JSON\\n%w\", err)"
  have body : "\treturn fmt.Errorf(" ++ failure ∈ model.decodeBody := by
    have spelled : "\treturn fmt.Errorf(" ++ failure = "\treturn " ++
        s!"fmt.Errorf(\"could not unmarshal {model.typeName} from JSON\\n%w\", err)" := by
      simp [failure, toString, ← String.toList_inj]
    rw [spelled, decodeBody, strict]
    simp [strictDecodeBody, toString]
  exact qualifies_of_infix (by simp) (inside.trans (infix_code sound declared body (by decide)))

end Model

/-! The imports of a file, read back from its text. -/

namespace Source

theorem importPath?_written {path : String} (plain : ∀ c ∈ path.toList, isPlain c = true) :
    importPath? s!"\"{path}\"".toList = some path := by
  have spelled : s!"\"{path}\"".toList = "\"".toList ++ (path.toList ++ ['"']) := by
    simp [toString]
  rw [importPath?, spelled, after?_append]
  simp [literal?_append plain]

theorem Block.imports_eq_nil {block : Block} {c : Char}
    (first : block.opening.toList.head? = some c) (other : c ≠ 'i') : block.imports = [] := by
  obtain ⟨rest, spelled⟩ := List.head?_eq_some_iff.mp first
  have different : after? "import " block.opening.toList = none := by
    rw [spelled]
    exact after?_eq_none (c := 'i') (by simp; rfl) (Ne.symm other)
  simp [Block.imports, different]

theorem imports_importBlocks {paths : List String}
    (plain : ∀ path ∈ paths, ∀ c ∈ path.toList, isPlain c = true) :
    (importBlocks paths).flatMap Block.imports = paths := by
  have group : after? "import " "import (".toList = some ['('] := by decide
  unfold importBlocks
  split
  · rename_i empty
    exact (List.isEmpty_iff.mp empty).symm
  · simp only [List.flatMap_singleton, Block.imports, group, if_true]
    apply filterMap_map_eq_self
    intro path member
    have spelled : s!"\t\"{path}\"".toList = "\t".toList ++ s!"\"{path}\"".toList := by
      simp [toString]
    rw [spelled, after?_append]
    exact importPath?_written (plain path member)

theorem importedPaths_render {model : Model} (sound : model.Sound) :
    importedPaths model.render = model.imports := by
  have package : Block.imports ⟨s!"package {model.package}", []⟩ = [] :=
    Block.imports_eq_nil (c := 'p') (by simp [toString]) (by decide)
  have declarations : (model.declarations.map Declaration.block).flatMap Block.imports = [] := by
    rw [List.flatMap_map, List.flatMap_eq_nil_iff]
    intro declaration _
    obtain ⟨c, kind, first⟩ := declaration.head?_opening
    exact Block.imports_eq_nil first (by rintro rfl; exact absurd kind (by decide))
  have literals : ∀ paths ∈ Model.importLists, ∀ path ∈ paths,
      path.toList.all isPlain = true := by
    decide
  have plain : ∀ path ∈ model.imports, ∀ c ∈ path.toList, isPlain c = true :=
    fun path member =>
      List.all_eq_true.mp (literals _ model.imports_mem_importLists path member)
  rw [importedPaths, blocks_render sound, List.flatMap_append, List.flatMap_append,
    List.flatMap_singleton, package, imports_importBlocks plain, declarations, List.nil_append,
    List.append_nil]

end Source

/-! What the names in the code refer to. -/

/-- The package-level names that a file may have to declare. -/
def Spec.vocabulary (spec : Spec) : List String :=
  spec.typeName :: (spec.values ++ spec.undefined?.toList ++ fixedNames spec.typeName)

variable {name typeName : String} {spec : Spec}

theorem not_mem_supplied (free : name ∉ fixedWords) (other : name.toList.head? ≠ some 's') :
    name ∉ keywords ++ suppliedNames typeName := by
  intro member
  have kinds : name ∈ fixedWords ∨ name = "sealed" ++ typeName := by
    simp only [suppliedNames, DerivedNames.ofType, List.mem_append, List.mem_singleton] at member
    simp only [fixedWords, List.mem_append]
    tauto
  rcases kinds with word | rfl
  · exact free word
  · rw [String.toList_append, List.head?_append] at other
    exact other rfl

theorem marshallable_not_mem_fixedWords (typeName : String) :
    (DerivedNames.ofType typeName).marshallable ∉ fixedWords := by
  have shorter : ∀ word ∈ fixedWords, ¬ "Marshallable".toList <+: word.toList := by
    decide
  intro member
  exact shorter _ member (by simp [DerivedNames.ofType])

/-- Names of imported packages are small, so that no declaration takes one. -/
theorem import_not_declared (valid : spec.Valid) (member : name ∈ importNames) :
    name ∉ spec.packageNames := by
  have small : ∀ word ∈ importNames, word.toList.all (fun c => !isUppercaseLetter c) = true := by
    decide
  intro declared
  obtain ⟨_, c, inside, upper⟩ := exists_upper_of_mem_packageNames valid declared
  have lower := List.all_eq_true.mp (small name member) c inside
  rw [upper] at lower
  contradiction

/-- A name in the code is supplied, or imported, or declared in the file. -/
theorem mem_code_cases (valid : spec.Valid)
    (member : name ∈ namesOf (Model.ofSpec spec none).code) :
    name ∈ keywords ++ suppliedNames spec.typeName ∨
      name ∈ (Model.ofSpec spec none).imports.map packageName ∨ name ∈ spec.packageNames := by
  have mentioned := Model.mem_scope_of_mem_code (valid.sound none) name member
  rw [Model.scope, declares_ofSpec, List.mem_append, List.mem_append, or_assoc] at mentioned
  exact mentioned

/-- The paths that any file imports, and the names they are used under. -/
def knownPackages : List (String × String) :=
  [("encoding/json", "json"), ("fmt", "fmt")]

theorem mem_imports_iff (model : Model) :
    ∀ package ∈ knownPackages,
      package.1 ∈ model.imports ↔ package.2 ∈ model.imports.map packageName := by
  have named : ∀ paths ∈ Model.importLists, ∀ package ∈ knownPackages,
      package.1 ∈ paths ↔ package.2 ∈ paths.map packageName := by
    decide
  exact named model.imports model.imports_mem_importLists

theorem qualifies_of_mem_imports {model : Model} (sound : model.Sound) :
    ∀ package ∈ knownPackages, package.1 ∈ model.imports → Qualifies package.2 model.code := by
  simp only [knownPackages, List.forall_mem_cons, Model.imports_eq]
  split
  · rename_i json
    have codec := Model.qualifies_json sound json
    split
    · simp [codec]
    · rename_i strict
      simp [codec, Model.qualifies_fmt sound json (by simpa using strict)]
  · simp

/-- A package is imported exactly if a member of it is used. -/
theorem mem_imports_iff_qualifies (valid : spec.Valid) :
    let model := Model.ofSpec spec none
    ∀ package ∈ knownPackages, package.1 ∈ model.imports ↔ Qualifies package.2 model.code := by
  intro model package known
  have sound : model.Sound := valid.sound none
  refine ⟨qualifies_of_mem_imports sound package known, fun used => ?_⟩
  have free : ∀ package ∈ knownPackages, package.2 ∉ fixedWords ∧ package.2 ∈ importNames ∧
      package.2.toList.head? ≠ some 's' := by
    decide
  obtain ⟨fresh, imported, other⟩ := free package known
  rcases mem_code_cases valid (mem_namesOf_of_qualifies used) with supplied | imports | declared
  · exact absurd supplied (not_mem_supplied fresh other)
  · exact (mem_imports_iff model package known).mpr imports
  · exact absurd declared (import_not_declared valid imported)

theorem imports_sorted (model : Model) :
    (∀ path ∈ model.imports, path ∈ knownPackages.map Prod.fst) ∧
      model.imports.Pairwise (· < ·) := by
  have sorted : ∀ paths ∈ Model.importLists,
      (∀ path ∈ paths, path ∈ knownPackages.map Prod.fst) ∧ paths.Pairwise (· < ·) := by
    decide
  exact sorted model.imports model.imports_mem_importLists

theorem packageNames_of_vocabulary (valid : spec.Valid) :
    ∀ name ∈ spec.vocabulary, name ∈ spec.packageNames ∨
      name ∈ ["OfOrUndefined", (DerivedNames.ofType spec.typeName).marshallable] := by
  simp only [Spec.vocabulary, fixedNames, Spec.packageNames, List.forall_mem_cons,
    List.forall_mem_append]
  refine ⟨by simp [DerivedNames.ofType], ⟨fun value member => by simp [member], ?_⟩, ?_⟩
  · intro value member
    have declared := valid.undefined_declared value (Option.mem_toList.mp member)
    simp [declared]
  · simp

/-- Optional declarations are referred to only where they are made. -/
theorem mem_packageNames_of_mem_code (valid : spec.Valid) :
    ∀ name ∈ spec.vocabulary, name ∈ namesOf (Model.ofSpec spec none).code →
      name ∈ spec.packageNames := by
  intro name word member
  rcases packageNames_of_vocabulary valid name word with declared | optional
  · exact declared
  have foreign : ∀ paths ∈ Model.importLists, ∀ other ∈ paths.map packageName,
      other ∈ importNames := by
    decide
  have free : name ∉ fixedWords ∧ name ∉ importNames ∧ name.toList.head? ≠ some 's' := by
    simp only [List.mem_cons, List.not_mem_nil, or_false] at optional
    rcases optional with rfl | rfl
    · decide
    · refine ⟨marshallable_not_mem_fixedWords spec.typeName, ?_, ?_⟩
      · simp [importNames, DerivedNames.ofType, ← String.toList_inj]
      · simp [DerivedNames.ofType]
  obtain ⟨fresh, own, other⟩ := free
  rcases mem_code_cases valid member with supplied | imported | declared
  · exact absurd supplied (not_mem_supplied fresh other)
  · exact absurd (foreign _ (Model.imports_mem_importLists _) name imported) own
  · exact declared

/-- The code below the package clause refers to nothing that is neither supplied nor imported nor
declared in the file, whatever the specification leaves out, and every import is used. -/
theorem references_declared (spec : Spec) (license : Option String)
    (accepted : spec.validate = .ok ()) :
    let text := (Model.ofSpec spec license).render
    ∃ code, tokens text = .name "package" :: .name spec.package :: code ∧
      (∀ path ∈ importedPaths text, path = "encoding/json" ∨ path = "fmt") ∧
      (importedPaths text).Pairwise (· < ·) ∧
      ("encoding/json" ∈ importedPaths text ↔ Qualifies "json" code) ∧
      ("fmt" ∈ importedPaths text ↔ Qualifies "fmt" code) ∧
      (∀ name ∈ mentions code, name ∈ suppliedNames spec.typeName ∨
        name ∈ (importedPaths text).map packageName ∨ name ∈ declaredNames text) ∧
      ∀ name ∈ spec.vocabulary, name ∈ mentions code → name ∈ declaredNames text := by
  intro text
  have valid := Spec.validate_eq_ok_iff.mp accepted
  have bare := valid.sound none
  have declared : declaredNames text = spec.packageNames := by
    rw [declaredNames_render (valid.sound license), declares_ofSpec]
  have imported : importedPaths text = (Model.ofSpec spec none).imports :=
    importedPaths_render (valid.sound license)
  have read : tokens text = _ :=
    (tokens_render spec license).trans (Model.tokens_render_eq bare rfl)
  obtain ⟨known, sorted⟩ := imports_sorted (Model.ofSpec spec none)
  have used := mem_imports_iff_qualifies valid
  simp only [knownPackages, List.forall_mem_cons] at used
  rw [declared, imported]
  refine ⟨_, read, fun path member => ?_, sorted, used.1, used.2.1, ?_, ?_⟩
  · simpa [knownPackages] using known path member
  · intro name member
    rw [mentions, List.mem_filter] at member
    rcases mem_code_cases valid member.1 with fixed | elsewhere
    · rcases List.mem_append.mp fixed with keyword | supplied
      · simp [isKeyword, keyword] at member
      · exact .inl supplied
    · exact .inr elsewhere
  · intro name word member
    exact mem_packageNames_of_mem_code valid name word (List.mem_filter.mp member).1

/-- Decoding may fail, though the specification has an undefined value. -/
def strictSpec : Spec :=
  { affixSpec with json := ⟨true, false⟩ }

theorem references_strictSpec :
    strictSpec.validate = .ok () ∧
      ∃ code, tokens (Model.ofSpec strictSpec (some "fmt")).render =
          .name "package" :: .name "p" :: code ∧
        Qualifies "fmt" code := by
  have accepted : strictSpec.validate = .ok () := rfl
  have imported : "fmt" ∈ importedPaths (Model.ofSpec strictSpec (some "fmt")).render := by
    rw [importedPaths_render ((Spec.validate_eq_ok_iff.mp accepted).sound _)]
    decide
  obtain ⟨code, read, _, _, _, formatted, _⟩ :=
    references_declared strictSpec (some "fmt") accepted
  exact ⟨accepted, code, read, formatted.mp imported⟩

end SealedEnum
