import SealedEnum.Proofs.Model
import SealedEnum.Proofs.Text.Pieces

namespace SealedEnum.Source

open SealedEnum.Identifier
open SealedEnum.Text

/-! The text of a source file and its lines determine each other. -/

/-- The lines of a text in which every line ends in a line feed. -/
def linesOf (text : String) : List String :=
  (splitAt '\n' text.toList).dropLast.map String.ofList

def Unbroken (text : String) : Prop :=
  '\n' ∉ text.toList ∧ '\r' ∉ text.toList

instance (text : String) : Decidable (Unbroken text) :=
  inferInstanceAs (Decidable (_ ∧ _))

theorem unbroken_append {first second : String} :
    Unbroken (first ++ second) ↔ Unbroken first ∧ Unbroken second := by
  simp only [Unbroken, String.toList_append, List.mem_append, not_or]
  exact and_and_and_comm

theorem unbroken_of_isIdentifier {name : String} (identifier : isIdentifier name = true) :
    Unbroken name :=
  ⟨not_mem_of_isIdentifier identifier (by decide),
    not_mem_of_isIdentifier identifier (by decide)⟩

/-- Lines that each end in a line feed. -/
def joined (lines : List String) : String :=
  String.join (lines.map (· ++ "\n"))

theorem toList_joined (lines : List String) :
    (joined lines).toList = (lines.map String.toList).flatMap (· ++ ['\n']) := by
  simp [joined, List.flatMap_map]

theorem linesOf_joined_append {lines : List String} (whole : ∀ line ∈ lines, '\n' ∉ line.toList)
    (rest : String) : linesOf (joined lines ++ rest) = lines ++ linesOf rest := by
  induction lines with
  | nil => simp [joined]
  | cons line others ih =>
      obtain ⟨first, later⟩ := List.forall_mem_cons.mp whole
      have spelled : (joined (line :: others) ++ rest).toList =
          line.toList ++ '\n' :: (joined others ++ rest).toList := by
        simp [joined]
      rw [linesOf, spelled, splitAt_append, splitAt_of_not_mem first, List.singleton_append,
        List.dropLast_cons_of_ne_nil (splitAt_ne_nil '\n' _), List.map_cons,
        String.ofList_toList, List.cons_append, ← ih later]
      rfl

theorem linesOf_joined {lines : List String} (whole : ∀ line ∈ lines, '\n' ∉ line.toList) :
    linesOf (joined lines) = lines := by
  have read := linesOf_joined_append whole ""
  rwa [String.append_empty, show linesOf "" = [] from rfl, List.append_nil] at read

theorem File.text_eq_joined (file : File) : file.text = joined file.lines :=
  rfl

/-! Which texts a declaration is written with. -/

def Declaration.texts : Declaration → List String
  | .interface name methods => name :: methods
  | .record name fields => name :: fields
  | .valueRegistry registry => registry.interface :: registry.base :: registry.values
  | .function name signature body => name :: signature :: body
  | .method receiver name signature body =>
      receiver.name :: receiver.type :: name :: signature :: body

theorem unbroken_indent {line : String} (unbroken : Unbroken line) :
    Unbroken (Declaration.indent line) := by
  unfold Declaration.indent
  split
  · exact unbroken
  · exact unbroken_append.mpr ⟨by simp [Unbroken], unbroken⟩

theorem unbroken_of_mem_braced {opening : String} {body : List String}
    (head : Unbroken opening) (inside : ∀ line ∈ body, Unbroken line) :
    ∀ line ∈ Declaration.braced opening body, Unbroken line := by
  unfold Declaration.braced
  split
  · simp only [List.forall_mem_singleton]
    exact unbroken_append.mpr ⟨head, by simp [Unbroken]⟩
  · simp only [List.forall_mem_append, List.forall_mem_map, List.forall_mem_singleton]
    refine ⟨⟨unbroken_append.mpr ⟨head, by simp [Unbroken]⟩, ?_⟩, by simp [Unbroken]⟩
    exact fun line member => unbroken_indent (inside line member)

theorem unbroken_padTo {width : Nat} {text : String} (unbroken : Unbroken text) :
    Unbroken (padTo width text) := by
  refine unbroken_append.mpr ⟨unbroken, ?_⟩
  simp [Unbroken, List.mem_replicate]

theorem Registry.unbroken_of_mem_lines {registry : Registry}
    (interface : Unbroken registry.interface) (base : Unbroken registry.base)
    (values : ∀ value ∈ registry.values, Unbroken value) :
    ∀ line ∈ registry.lines, Unbroken line := by
  have key : ∀ value ∈ registry.values, Unbroken (Registry.key value) := by
    intro value member
    exact unbroken_append.mpr ⟨values value member, by simp [Unbroken]⟩
  simp only [Registry.lines, singletonLines, listLines, tableLines, List.forall_mem_append,
    List.forall_mem_map, List.forall_mem_singleton, toString, unbroken_append]
  simp +decide +contextual [interface, base, values, key, unbroken_padTo]

theorem Declaration.unbroken_of_mem_lines {declaration : Declaration}
    (texts : ∀ text ∈ declaration.texts, Unbroken text) :
    ∀ line ∈ declaration.lines, Unbroken line := by
  cases declaration with
  | interface name methods =>
      simp only [Declaration.texts, List.forall_mem_cons] at texts
      refine unbroken_of_mem_braced ?_ texts.2
      simp +decide [toString, unbroken_append, texts.1]
  | record name fields =>
      simp only [Declaration.texts, List.forall_mem_cons] at texts
      refine unbroken_of_mem_braced ?_ texts.2
      simp +decide [toString, unbroken_append, texts.1]
  | valueRegistry registry =>
      simp only [Declaration.texts, List.forall_mem_cons] at texts
      exact Registry.unbroken_of_mem_lines texts.1 texts.2.1 texts.2.2
  | function name signature body =>
      simp only [Declaration.texts, List.forall_mem_cons] at texts
      refine unbroken_of_mem_braced ?_ texts.2.2
      simp +decide [toString, unbroken_append, texts]
  | method receiver name signature body =>
      simp only [Declaration.texts, List.forall_mem_cons] at texts
      obtain ⟨receiverName, receiverType, named, signed, inside⟩ := texts
      refine unbroken_of_mem_braced ?_ inside
      simp +decide [toString, unbroken_append, receiverName, receiverType, named, signed]

theorem unbroken_names {model : Model} (sound : model.Sound) :
    Unbroken model.names.interface ∧ Unbroken model.names.base ∧
      Unbroken model.names.sealMethod ∧ Unbroken model.names.marshallable ∧
        Unbroken model.names.invalidNameError ∧
          Unbroken model.names.invalidNameConstructor := by
  have typeName := unbroken_of_isIdentifier sound.typeName_identifier
  simp +decide [Model.names, DerivedNames.ofType, unbroken_append, typeName]

theorem unbroken_decodeBody {model : Model} (sound : model.Sound) :
    ∀ line ∈ model.decodeBody, Unbroken line := by
  unfold Model.decodeBody
  split
  · rename_i value fallback
    have undefined : Unbroken value := unbroken_of_isIdentifier
      (sound.undefined_identifier (Model.undefined_of_decodeFallback fallback))
    simp +decide [Model.fallbackDecodeBody, toString, unbroken_append, undefined]
  · have typeName := unbroken_of_isIdentifier sound.typeName_identifier
    simp +decide [Model.strictDecodeBody, toString, unbroken_append, typeName]

theorem unbroken_baseDeclarations {model : Model} (sound : model.Sound) :
    ∀ declaration ∈ model.baseDeclarations, ∀ text ∈ declaration.texts, Unbroken text := by
  obtain ⟨interface, base, sealMethod, marshallable, _, _⟩ := unbroken_names sound
  have values : ∀ value ∈ model.values, Unbroken value :=
    fun value member => unbroken_of_isIdentifier (sound.value_identifier member)
  simp only [Model.baseDeclarations, Model.registry, Declaration.texts, List.forall_mem_cons,
    List.forall_mem_append, toString, unbroken_append]
  cases model.has .jsonCodec <;>
    simp +decide [interface, base, sealMethod, marshallable, unbroken_append] <;> exact values

theorem unbroken_strictLookup {model : Model} (sound : model.Sound) :
    ∀ text ∈ model.strictLookup.texts, Unbroken text := by
  obtain ⟨interface, _, _, _, _, constructor⟩ := unbroken_names sound
  simp only [Model.strictLookup, Declaration.texts, List.forall_mem_cons, toString,
    unbroken_append]
  simp +decide [interface, constructor]

theorem unbroken_fallbackLookup {model : Model} (sound : model.Sound) {value : String}
    (undefined : model.undefined = some value) :
    ∀ text ∈ (model.fallbackLookup value).texts, Unbroken text := by
  obtain ⟨interface, _, _, _, _, _⟩ := unbroken_names sound
  have fallback := unbroken_of_isIdentifier (sound.undefined_identifier undefined)
  simp only [Model.fallbackLookup, Declaration.texts, List.forall_mem_cons, toString,
    unbroken_append]
  simp +decide [interface, fallback]

theorem unbroken_jsonDeclarations {model : Model} (sound : model.Sound) :
    ∀ declaration ∈ model.jsonDeclarations, ∀ text ∈ declaration.texts, Unbroken text := by
  obtain ⟨interface, base, _, marshallable, _, _⟩ := unbroken_names sound
  simp only [Model.jsonDeclarations, Declaration.texts, List.forall_mem_cons, toString,
    unbroken_append]
  simp +decide [interface, base, marshallable]
  exact unbroken_decodeBody sound

theorem unbroken_errorDeclarations {model : Model} (sound : model.Sound) :
    ∀ declaration ∈ model.errorDeclarations, ∀ text ∈ declaration.texts, Unbroken text := by
  obtain ⟨_, _, _, _, invalidNameError, constructor⟩ := unbroken_names sound
  have typeName := unbroken_of_isIdentifier sound.typeName_identifier
  simp only [Model.errorDeclarations, Declaration.texts, List.forall_mem_cons, toString,
    unbroken_append]
  simp +decide [typeName, invalidNameError, constructor]

theorem unbroken_of_mem_texts {model : Model} (sound : model.Sound) :
    ∀ declaration ∈ model.declarations, ∀ text ∈ declaration.texts, Unbroken text := by
  simp only [Model.declarations, List.forall_mem_append]
  refine ⟨⟨⟨⟨unbroken_baseDeclarations sound, ?_⟩, ?_⟩, ?_⟩, unbroken_errorDeclarations sound⟩
  · simpa using unbroken_strictLookup sound
  · intro declaration member
    obtain ⟨value, found, rfl⟩ := List.mem_map.mp member
    rw [Option.mem_toList] at found
    exact unbroken_fallbackLookup sound (Option.filter_eq_some_iff.mp found).1
  · split
    · exact unbroken_jsonDeclarations sound
    · simp

theorem commentBlock_ne_nil {text : String} {block : List String}
    (made : commentBlock text = some block) : block ≠ [] := by
  simp only [commentBlock] at made
  split at made
  · contradiction
  · cases made
    simp

theorem whole_of_mem_commentBlock {text : String} {block : List String}
    (made : commentBlock text = some block) : ∀ line ∈ block, '\n' ∉ line.toList := by
  simp only [commentBlock] at made
  split at made
  · contradiction
  · cases made
    intro line member
    obtain ⟨characters, found, rfl⟩ := List.mem_map.mp member
    rw [String.toList_ofList]
    rcases List.mem_append.mp found with inside | last
    · obtain ⟨original, source, rfl⟩ := List.mem_map.mp inside
      intro newline
      have kept : '\n' ∈ trimEnd original := by
        unfold commentLine at newline
        split at newline <;> simp_all
      exact not_mem_of_mem_lines source (subset_trimEnd kept)
    · simp [List.mem_singleton.mp last]

theorem unbroken_of_mem_importLines (model : Model) :
    ∀ line ∈ File.importLines model.imports, Unbroken line := by
  unfold Model.imports
  split
  · decide
  · split <;> decide

/-- Only the license may hold carriage returns, and nothing in the file breaks its lines. -/
theorem whole_of_mem_lines {model : Model} (sound : model.Sound) :
    ∀ line ∈ model.file.lines, '\n' ∉ line.toList := by
  intro line member
  rcases mem_of_mem_intercalate member with rfl | ⟨lines, found, inside⟩
  · simp
  simp only [File.sections, List.mem_append, List.mem_map, Option.mem_toList,
    List.mem_cons, List.not_mem_nil, or_false] at found
  rcases found with ((header | package | marker) | imports) | ⟨declaration, declared, rfl⟩
  · obtain ⟨text, _, made⟩ := Option.bind_eq_some_iff.mp header
    exact whole_of_mem_commentBlock made line inside
  · subst lines
    rw [List.mem_singleton.mp inside]
    have package := unbroken_of_isIdentifier sound.package_identifier
    have head : Unbroken s!"package {model.package}" := by
      simp +decide [toString, unbroken_append, package]
    exact head.1
  · subst lines
    rw [List.mem_singleton.mp inside]
    decide
  · split at imports
    · contradiction
    · rw [List.mem_singleton.mp imports] at inside
      exact (unbroken_of_mem_importLines model line inside).1
  · exact (Declaration.unbroken_of_mem_lines (unbroken_of_mem_texts sound declaration declared)
      line inside).1

theorem linesOf_render {model : Model} (sound : model.Sound) :
    linesOf model.render = model.file.lines :=
  linesOf_joined (whole_of_mem_lines sound)

end SealedEnum.Source
