import SealedEnum.Proofs.Source.LookupTable

namespace SealedEnum.Source

open SealedEnum.Identifier

/-! The columns of a registry, measured in characters and no wider than its names ask for. -/

/-- A label, the spaces behind it, and the content that they set off. -/
structure Row where
  label : String
  gap : Nat
  content : String
  deriving DecidableEq

namespace Row

def text (row : Row) : String :=
  row.label ++ String.ofList (List.replicate row.gap ' ') ++ row.content

/-- Where the content of a row starts. -/
def start (row : Row) : Nat :=
  row.label.length + row.gap

end Row

/-- Rows with space behind every label and all contents in one column. -/
structure Aligned (rows : List Row) (column : Nat) : Prop where
  apart : ∀ row ∈ rows, 0 < row.gap
  starts : ∀ row ∈ rows, row.start = column

def Longest (rows : List Row) (row : Row) : Prop :=
  row ∈ rows ∧ ∀ other ∈ rows, other.label.length ≤ row.label.length

/-- Aligned rows that no other spacing of the same labels can align further to the left. -/
structure Tight (rows : List Row) (column : Nat) : Prop extends Aligned rows column where
  exists_longest : ∃ row, Longest rows row
  gap_of_longest : ∀ row, Longest rows row → row.gap = 1
  narrowest : ∀ others narrower, others.map Row.label = rows.map Row.label →
    Aligned others narrower → column ≤ narrower

/-- The lines that bind the values, and the lines of the table from names. -/
def registryLines? (found : List Block) : Option (List String × List String) := do
  let block ← declaring? "allValues" found
  let (singletons, rest) := splitAtBlank block.body
  let (_, entries) ← composite? "\tallValuesByString = map[string]" (splitAtBlank rest).2
  return (singletons, entries)

/-! Rows that are padded to the longest label. -/

theorem columnWidth_eq_max? (entries : List String) :
    columnWidth entries = (entries.map String.length).max?.getD 0 := by
  rw [columnWidth, List.foldl_max, Nat.zero_max]

theorem exists_columnWidth_eq {entries : List String} (nonempty : entries ≠ []) :
    ∃ entry ∈ entries, entry.length = columnWidth entries ∧
      ∀ other ∈ entries, other.length ≤ columnWidth entries := by
  obtain ⟨width, largest⟩ := Option.isSome_iff_exists.mp
    (List.isSome_max?_of_ne_nil (l := entries.map String.length) (by simpa using nonempty))
  obtain ⟨attained, bound⟩ := List.max?_eq_some_iff.mp largest
  obtain ⟨entry, member, rfl⟩ := List.mem_map.mp attained
  rw [columnWidth_eq_max?, largest, Option.getD_some]
  exact ⟨entry, member, rfl, fun other present => bound _ (List.mem_map_of_mem present)⟩

example : columnWidth ["Red", "Grün"] = 4 := by decide

theorem columnWidth_le_iff {entries : List String} {width : Nat} :
    columnWidth entries ≤ width ↔ ∀ entry ∈ entries, entry.length ≤ width := by
  by_cases none : entries = []
  · subst none
    simp [columnWidth]
  · obtain ⟨longest, member, attained, bound⟩ := exists_columnWidth_eq none
    constructor
    · exact fun fits entry present => Nat.le_trans (bound entry present) fits
    · exact fun fits => attained ▸ fits longest member

theorem Aligned.tight {rows : List Row} {column : Nat} (aligned : Aligned rows column)
    (closest : ∃ row ∈ rows, row.gap = 1) : Tight rows column where
  toAligned := aligned
  exists_longest := by
    obtain ⟨row, member, single⟩ := closest
    refine ⟨row, member, fun other present => ?_⟩
    have here := aligned.starts row member
    have there := aligned.starts other present
    have space := aligned.apart other present
    simp only [Row.start] at here there
    omega
  gap_of_longest := by
    rintro row ⟨member, longest⟩
    obtain ⟨other, present, single⟩ := closest
    have here := aligned.starts row member
    have there := aligned.starts other present
    have space := aligned.apart row member
    have bound := longest other present
    simp only [Row.start] at here there
    omega
  narrowest := by
    intro others narrower same fits
    obtain ⟨row, member, single⟩ := closest
    have labelled : row.label ∈ others.map Row.label := same ▸ List.mem_map_of_mem member
    obtain ⟨other, present, label⟩ := List.mem_map.mp labelled
    have here := aligned.starts row member
    have there := fits.starts other present
    have space := fits.apart other present
    rw [Row.start, ← label] at here
    rw [Row.start] at there
    omega

/-- One row for each value, with space up to the longest entry and one more behind it. -/
def paddedRows (indent : String) (entry content : String → String) (values : List String) :
    List Row :=
  values.map fun value => {
    label := indent ++ entry value
    gap := columnWidth (values.map entry) - (entry value).length + 1
    content := content value }

section Padded

variable {values : List String} (indent : String) (entry content : String → String)

theorem text_paddedRows :
    (paddedRows indent entry content values).map Row.text = values.map fun value =>
      indent ++ padTo (columnWidth (values.map entry)) (entry value) ++ " " ++ content value := by
  rw [paddedRows, List.map_map]
  apply List.map_congr_left
  intro value _
  simp [Row.text, padTo, ← String.toList_inj, List.replicate_succ']

theorem tight_paddedRows (nonempty : values ≠ []) :
    Tight (paddedRows indent entry content values)
      (indent.length + columnWidth (values.map entry) + 1) := by
  have some : values.map entry ≠ [] := by simpa using nonempty
  obtain ⟨widest, attained, width, bound⟩ := exists_columnWidth_eq some
  obtain ⟨longest, declared, rfl⟩ := List.mem_map.mp attained
  refine Aligned.tight ⟨?_, ?_⟩ ⟨_, List.mem_map_of_mem declared, ?_⟩
  · intro row member
    obtain ⟨value, _, rfl⟩ := List.mem_map.mp member
    exact Nat.succ_pos _
  · intro row member
    obtain ⟨value, present, rfl⟩ := List.mem_map.mp member
    have fits := bound (entry value) (List.mem_map_of_mem present)
    simp only [Row.start, String.length_append]
    omega
  · simp only [width, Nat.sub_self, Nat.zero_add]

end Padded

/-! The rows of a registry. -/

namespace Registry

/-- The longest value that is padded to. What makes it a key fits into the column as well. -/
def longestValue : Nat := 65525

theorem isPaddable_iff {registry : Registry} :
    registry.isPaddable = true ↔ ∀ value ∈ registry.values, value.length ≤ longestValue := by
  have suffix : ".String():".length = 10 := by decide
  simp only [isPaddable, Bool.and_eq_true, decide_eq_true_eq, columnWidth_le_iff,
    List.forall_mem_map, key, String.length_append, suffix, widestColumn, longestValue]
  constructor
  · rintro ⟨-, keys⟩ value member
    have fits := keys value member
    omega
  · intro short
    refine ⟨fun value member => ?_, fun value member => ?_⟩ <;>
      · have fits := short value member
        omega

def singletonRows (registry : Registry) : List Row :=
  paddedRows "\t" id (fun value => s!"= {registry.base}\x7bname: \"{value}\"\x7d")
    registry.values

def tableRows (registry : Registry) : List Row :=
  paddedRows "\t\t" key (fun value => s!"{value},") registry.values

theorem text_singletonRows (registry : Registry) :
    registry.singletonRows.map Row.text = registry.singletonLines := by
  rw [singletonRows, text_paddedRows, singletonLines]
  simp [toString, ← String.toList_inj]

theorem text_tableRows (registry : Registry) :
    registry.tableRows.map Row.text = registry.values.map fun value =>
      s!"\t\t{padTo (columnWidth (registry.values.map key)) (key value)} {value}," := by
  rw [tableRows, text_paddedRows]
  simp [toString, ← String.toList_inj]

end Registry

theorem registryLines?_render {spec : Spec} (valid : spec.Valid) (license : Option String) :
    registryLines? (blocks (linesOf (Model.ofSpec spec license).render)) =
      some ((Model.ofSpec spec license).registry.singletonRows.map Row.text,
        (Model.ofSpec spec license).registry.tableRows.map Row.text) := by
  have interface : isIdentifier (Model.ofSpec spec license).registry.interface = true :=
    (isIdentifier_names (valid.sound license)).1
  have block := declaring?_render valid "allValues"
    (registry_mem_declarations (Model.ofSpec spec license))
    (by simp [Declaration.declares, Registry.declares])
  rw [Registry.text_singletonRows, Registry.text_tableRows]
  simp only [registryLines?, block, Declaration.block, Registry.splitAtBlank_block,
    Registry.splitAtBlank_listLines, Registry.composite?_tableLines interface,
    Option.bind_eq_bind, Option.bind_some]
  rfl

/-- The bindings of an accepted specification stand in two columns, and so do the entries of its
table. Only spaces stand between them, and the longest name or key is followed by a single one. -/
theorem registry_columns_of_valid (spec : Spec) (license : Option String)
    (accepted : spec.validate = .ok ()) :
    let base := (DerivedNames.ofType spec.typeName).base
    ∃ singletons entries : List Row,
      registryLines? (blocks (linesOf (Model.ofSpec spec license).render)) =
        some (singletons.map Row.text, entries.map Row.text) ∧
      (singletons.map fun row => (row.label, row.content)) =
        spec.values.map (fun value => ("\t" ++ value, s!"= {base}\x7bname: \"{value}\"\x7d")) ∧
      (entries.map fun row => (row.label, row.content)) =
        spec.values.map (fun value => ("\t\t" ++ Registry.key value, s!"{value},")) ∧
      (∃ column, Tight singletons column) ∧ ∃ column, Tight entries column := by
  have valid := Spec.validate_eq_ok_iff.mp accepted
  refine ⟨_, _, registryLines?_render valid license, ?_, ?_, ?_, ?_⟩
  · exact List.map_map
  · exact List.map_map
  · exact ⟨_, tight_paddedRows _ _ _ valid.values_nonempty⟩
  · exact ⟨_, tight_paddedRows _ _ _ valid.values_nonempty⟩

theorem registry_columns_colorSpec :
    colorSpec.validate = .ok () ∧
      ∃ singletons entries : List Row,
        registryLines? (blocks (linesOf (Model.ofSpec colorSpec none).render)) =
          some (singletons.map Row.text, entries.map Row.text) ∧
        (∃ column, Tight singletons column) ∧ ∃ column, Tight entries column := by
  have accepted : colorSpec.validate = .ok () := rfl
  obtain ⟨singletons, entries, read, _, _, bindings, table⟩ :=
    registry_columns_of_valid colorSpec none accepted
  exact ⟨accepted, singletons, entries, read, bindings, table⟩

end SealedEnum.Source
