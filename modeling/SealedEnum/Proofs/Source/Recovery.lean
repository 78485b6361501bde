import SealedEnum.Proofs.Source.LookupTable

namespace SealedEnum.Source

open SealedEnum.Identifier

/-! What a file was rendered from, recovered from its text. -/

/-- All that the text of a file depends on. -/
structure Essence where
  header : Option (List String)
  package : String
  typeName : String
  values : List String
  undefined : Option String
  json : Option DecodePolicy
  deriving DecidableEq

def Essence.ofModel (model : Model) : Essence where
  header := model.license.bind commentBlock
  package := model.package
  typeName := model.typeName
  values := model.values
  undefined := model.undefined
  json := model.json

def header? (lines : List String) : Option (List String) :=
  match lines.takeWhile isComment with
  | [] => none
  | line :: rest => some (line :: rest)

def package? (found : List Block) : Option String := do
  let block ← found.head?
  let name ← after? "package " block.opening.toList
  return String.ofList name

/-- Only strict decoding reports errors of its own. -/
def decodePolicy? (found : List Block) : Option DecodePolicy :=
  (found.find? fun block => block.opening = "import (").map fun block =>
    if "\t\"fmt\"" ∈ block.body then .strict else .nilToUndefined

def recover? (text : String) : Option Essence := do
  let lines := linesOf text
  let found := blocks lines
  let table ← LookupTable.ofBlocks? found
  return {
    header := header? lines
    package := ← package? found
    typeName := table.interface
    values := table.elements
    undefined := fallback? found
    json := decodePolicy? found }

/-! Each part is found where it was written. -/

theorem header?_append {block rest : List String} (comments : ∀ line ∈ block, isComment line = true)
    (nonempty : block ≠ []) (ends : ∀ line ∈ rest.head?, isComment line = false) :
    header? (block ++ rest) = some block := by
  have stops : rest.takeWhile isComment = [] := by
    cases rest with
    | nil => rfl
    | cons line others =>
        have code : isComment line = false := ends line rfl
        simp [code]
  obtain ⟨first, others, spelled⟩ := List.exists_cons_of_ne_nil nonempty
  rw [header?, List.takeWhile_append_of_pos comments, stops, List.append_nil, spelled]

theorem header?_of_code {line : String} (code : isComment line = false) (rest : List String) :
    header? (line :: rest) = none := by
  simp [header?, code]

theorem lines_eq_header (model : Model) :
    ∃ rest, model.file.lines =
      match model.file.header with
      | none => s!"package {model.package}" :: rest
      | some block => block ++ "" :: s!"package {model.package}" :: rest := by
  rw [File.lines, File.sections]
  cases model.file.header with
  | none =>
      exact ⟨_, rfl⟩
  | some block =>
      exact ⟨_, by simp [List.intercalate_cons_cons, Model.file]; rfl⟩

theorem header?_lines (model : Model) : header? model.file.lines = model.file.header := by
  have code : isComment s!"package {model.package}" = false :=
    isComment_append (c := 'p') (by simp [toString]) (by decide)
  obtain ⟨rest, lines⟩ := lines_eq_header model
  rw [lines]
  cases found : model.file.header with
  | none => exact header?_of_code code rest
  | some block =>
      obtain ⟨text, _, made⟩ := Option.bind_eq_some_iff.mp found
      apply header?_append (isComment_of_mem_commentBlock made) (commentBlock_ne_nil made)
      rintro line ⟨⟩
      decide

theorem package?_render {model : Model} (sound : model.Sound) :
    package? (blocks (linesOf model.render)) = some model.package := by
  have spelled : s!"package {model.package}".toList =
      "package ".toList ++ model.package.toList := by
    simp [toString]
  rw [blocks_render sound]
  simp only [package?, List.cons_append, List.head?_cons, spelled,
    after?_append, Option.bind_eq_bind, Option.bind_some, String.ofList_toList]
  rfl

theorem Declaration.head?_opening (declaration : Declaration) :
    ∃ c ∈ ['t', 'v', 'f'], declaration.block.opening.toList.head? = some c := by
  have leads : ∀ {opening : String} {c : Char} (body : List String),
      opening.toList.head? = some c → (bracedBlock opening body).opening.toList.head? = some c := by
    intro opening c body first
    obtain ⟨ending, spelled⟩ := opening_bracedBlock opening body
    rw [spelled, List.head?_append, first]
    rfl
  cases declaration with
  | interface name methods | record name fields =>
      exact ⟨'t', by decide, leads _ (by simp [toString])⟩
  | valueRegistry registry => exact ⟨'v', by decide, by simp [block, Registry.block]⟩
  | function name signature body | method receiver name signature body =>
      exact ⟨'f', by decide, leads _ (by simp [toString])⟩

theorem Declaration.opening_ne_import (declaration : Declaration) :
    declaration.block.opening ≠ "import (" := by
  intro same
  obtain ⟨c, kind, first⟩ := declaration.head?_opening
  rw [same] at first
  cases Option.some.inj first
  exact absurd kind (by decide)

theorem find?_import {model : Model} (sound : model.Sound) :
    (blocks (linesOf model.render)).find? (fun block => block.opening = "import (") =
      (importBlocks model.imports).head? := by
  have package : s!"package {model.package}" ≠ "import (" := by
    intro same
    simpa [toString] using congrArg String.toList same
  have declarations : (model.declarations.map Declaration.block).find?
      (fun block => block.opening = "import (") = none := by
    simp [Declaration.opening_ne_import]
  rw [blocks_render sound, List.find?_append, List.find?_append, declarations,
    List.find?_cons_of_neg (by simpa using package), List.find?_nil]
  unfold importBlocks
  split <;> simp

theorem decodePolicy?_render {model : Model} (sound : model.Sound) :
    decodePolicy? (blocks (linesOf model.render)) = model.json := by
  rw [decodePolicy?, find?_import sound, importBlocks, Model.imports, Model.decodeFallback_eq,
    Model.has_jsonCodec]
  cases stored : model.json with
  | none => rfl
  | some policy =>
      cases policy with
      | strict => simp [toString]
      | nilToUndefined =>
          have possible := sound.fallback_possible stored
          simp [possible, toString]

theorem recover?_render {spec : Spec} (valid : spec.Valid) (license : Option String) :
    recover? (Model.ofSpec spec license).render =
      some (Essence.ofModel (Model.ofSpec spec license)) := by
  have sound := valid.sound license
  simp only [recover?, ofBlocks?_render valid license, package?_render sound,
    fallback?_render valid license, decodePolicy?_render sound, Option.bind_eq_bind,
    Option.bind_some]
  rw [linesOf_render sound, header?_lines]
  rfl

theorem render_eq_of_essence {left right : Model}
    (same : Essence.ofModel left = Essence.ofModel right) : left.render = right.render := by
  cases left
  cases right
  simp only [Essence.ofModel, Essence.mk.injEq] at same
  obtain ⟨header, rfl, rfl, rfl, rfl, rfl⟩ := same
  rw [Model.render, Model.render, Model.file, Model.file]
  simp only [header]
  rfl

end SealedEnum.Source
