import SealedEnum.Proofs.Source.PackageNames

namespace SealedEnum.Source

open SealedEnum.Identifier

/-! The values of a sealed type and its lookups, read back from the text of a file. -/

/-- A variable, the type of the record it holds and the name in that record. -/
structure Singleton where
  identifier : String
  type : String
  name : String
  deriving DecidableEq

/-- The value whose name is the key, and the value that the key leads to. -/
structure TableEntry where
  keyed : String
  value : String
  deriving DecidableEq

/-- What a file says about its values. The named types are those whose values answer with the
name they hold when they are asked for their string. -/
structure LookupTable where
  interface : String
  singletons : List Singleton
  elements : List String
  entries : List TableEntry
  named : List String
  deriving DecidableEq

def escapes : List (Char × Char) :=
  [('a', '\x07'), ('b', '\x08'), ('f', '\x0c'), ('n', '\n'), ('r', '\r'), ('t', '\t'),
    ('v', '\x0b'), ('\\', '\\'), ('"', '"')]

/-- The content of a string literal behind its opening quote, and what follows the closing one.
Numeric escapes are not read. -/
def literal? : List Char → Option (List Char × List Char)
  | [] => none
  | '"' :: rest => some ([], rest)
  | '\n' :: _ => none
  | ['\\'] => none
  | '\\' :: escape :: rest => do
      let c ← escapes.lookup escape
      let (content, rest) ← literal? rest
      return (c :: content, rest)
  | c :: rest => do
      let (content, rest) ← literal? rest
      return (c :: content, rest)

def isPlain (c : Char) : Bool :=
  c != '"' && c != '\\' && c != '\n'

def dropSpaces (text : List Char) : List Char :=
  text.dropWhile (· = ' ')

def singleton? (line : String) : Option Singleton := do
  let (identifier, rest) ← name? (← after? "\t" line.toList)
  let (type, rest) ← name? (← after? "= " (dropSpaces rest))
  let (name, rest) ← literal? (← after? "\x7bname: \"" rest)
  if rest = ['\x7d'] then some ⟨identifier, type, String.ofList name⟩ else none

def element? (line : String) : Option String := do
  let (value, rest) ← name? (← after? "\t\t" line.toList)
  if rest = [','] then some value else none

def tableRow? (line : String) : Option TableEntry := do
  let (keyed, rest) ← name? (← after? "\t\t" line.toList)
  let (value, rest) ← name? (dropSpaces (← after? ".String():" rest))
  if rest = [','] then some ⟨keyed, value⟩ else none

/-- The type behind the beginning of a composite value, and the lines between its braces. -/
def composite? (beginning : String) : List String → Option (String × List String)
  | [] => none
  | opening :: rest => do
      let (type, ending) ← name? (← after? beginning opening.toList)
      if ending = ['\x7b'] ∧ rest.getLast? = some "\t\x7d" then some (type, rest.dropLast) else none

def splitAtBlank (lines : List String) : List String × List String :=
  (lines.takeWhile (· ≠ ""), (lines.dropWhile (· ≠ "")).drop 1)

/-- The type that a block gives a method answering with the name a value holds. -/
def namedType? (block : Block) : Option String := do
  let (type, rest) ← name? (← after? "func (b " block.opening.toList)
  if rest = ") String() string \x7b".toList ∧ block.body = ["\treturn b.name"] then some type
  else none

def declaring? (name : String) (found : List Block) : Option Block :=
  found.find? fun block => block.declares.contains name

def LookupTable.ofBody? (body named : List String) : Option LookupTable := do
  let (singletons, rest) := splitAtBlank body
  let (list, table) := splitAtBlank rest
  let (interface, elements) ← composite? "\tallValues = []" list
  let (mapped, entries) ← composite? "\tallValuesByString = map[string]" table
  if mapped = interface then
    return ⟨interface, ← singletons.mapM singleton?, ← elements.mapM element?,
      ← entries.mapM tableRow?, named⟩
  else none

def LookupTable.ofBlocks? (found : List Block) : Option LookupTable := do
  let block ← declaring? "allValues" found
  LookupTable.ofBody? block.body (found.filterMap namedType?)

/-- What the lookup that never fails answers with for an unknown name. -/
def fallback? (found : List Block) : Option String := do
  let block ← declaring? "OfOrUndefined" found
  let (value, rest) ← name? (← after? "\treturn " (← block.body.getLast?).toList)
  if rest = [] then some value else none

namespace LookupTable

def singletonOf? (table : LookupTable) (identifier : String) : Option Singleton :=
  table.singletons.find? (·.identifier = identifier)

def string? (table : LookupTable) (identifier : String) : Option String := do
  let singleton ← table.singletonOf? identifier
  if singleton.type ∈ table.named then some singleton.name else none

/-- Of several entries with one key the last counts. -/
def lookup (table : LookupTable) (name : String) : Option Singleton := do
  let entry ← (table.entries.filter fun entry => table.string? entry.keyed = some name).getLast?
  table.singletonOf? entry.value

end LookupTable

/-! Each line of a registry is read as what it was written from. -/

theorem literal?_append {content : List Char} (plain : ∀ c ∈ content, isPlain c = true)
    (rest : List Char) : literal? (content ++ '"' :: rest) = some (content, rest) := by
  induction content with
  | nil => rfl
  | cons c others ih =>
      have ordinary := plain c (by simp)
      simp only [isPlain, Bool.and_eq_true, bne_iff_ne, ne_eq] at ordinary
      have later := ih fun other member => plain other (List.mem_cons_of_mem c member)
      rw [List.cons_append, literal?]
      · simp [later]
      · exact ordinary.1.1
      · exact ordinary.2
      · exact fun backslash _ => ordinary.1.2 backslash
      · exact fun _ _ backslash _ => ordinary.1.2 backslash

theorem isPlain_of_isIdentifier {name : String} (identifier : isIdentifier name = true) :
    ∀ c ∈ name.toList, isPlain c = true := by
  intro c member
  have other : ∀ mark, isPart mark = false → c ≠ mark := by
    rintro mark outside rfl
    exact not_mem_of_isIdentifier identifier outside member
  simp [isPlain, other '"' (by decide), other '\\' (by decide), other '\n' (by decide)]

theorem dropSpaces_text {beginning : String} {c : Char}
    (first : beginning.toList.head? = some c) (other : c ≠ ' ') (count : Nat)
    (rest : List Char) :
    dropSpaces (List.replicate count ' ' ++ ' ' :: (beginning.toList ++ rest)) =
      beginning.toList ++ rest := by
  obtain ⟨others, spelled⟩ := List.head?_eq_some_iff.mp first
  rw [spelled]
  induction count with
  | zero => simp [dropSpaces, other]
  | succ count ih => simpa [dropSpaces, List.replicate_succ] using ih

theorem dropSpaces_name {name : String} (identifier : isIdentifier name = true)
    (count : Nat) (rest : List Char) :
    dropSpaces (List.replicate count ' ' ++ ' ' :: (name.toList ++ rest)) =
      name.toList ++ rest := by
  obtain ⟨c, others, spelled, _, _⟩ := isIdentifier_iff.mp identifier
  have other : c ≠ ' ' := first_ne_of_isIdentifier identifier spelled (by decide)
  exact dropSpaces_text (c := c) (by simp [spelled]) other count rest

theorem singleton?_written {value base : String} (identifier : isIdentifier value = true)
    (typed : isIdentifier base = true) (width : Nat) :
    singleton? s!"\t{padTo width value} = {base}\x7bname: \"{value}\"\x7d" =
      some ⟨value, base, value⟩ := by
  have spelled : s!"\t{padTo width value} = {base}\x7bname: \"{value}\"\x7d".toList =
      "\t".toList ++ (value.toList ++ (List.replicate (width - value.length) ' ' ++
        ' ' :: ("= ".toList ++ (base.toList ++ ("\x7bname: \"".toList ++
          (value.toList ++ '"' :: ['\x7d'])))))) := by
    simp [toString, toList_padTo]
  have named : ∀ rest, name? (value.toList ++ (List.replicate (width - value.length) ' ' ++
      ' ' :: rest)) = some (value, List.replicate (width - value.length) ' ' ++ ' ' :: rest) :=
    fun rest => name?_append identifier (endsName_replicate _ rest)
  have equals : ∀ rest, dropSpaces (List.replicate (width - value.length) ' ' ++
      ' ' :: ("= ".toList ++ rest)) = "= ".toList ++ rest :=
    dropSpaces_text (c := '=') (by simp) (by decide) _
  have type : ∀ rest, name? (base.toList ++ ("\x7bname: \"".toList ++ rest)) =
      some (base, "\x7bname: \"".toList ++ rest) :=
    fun rest => name?_append typed (endsName_text (c := '\x7b') (by simp) (by decide) rest)
  have content := literal?_append (isPlain_of_isIdentifier identifier) ['\x7d']
  simp only [singleton?, spelled, after?_append, named, equals, type, content,
    Option.bind_eq_bind, Option.bind_some, String.ofList_toList, ↓reduceIte]

theorem element?_written {value : String} (identifier : isIdentifier value = true) :
    element? s!"\t\t{value}," = some value := by
  have spelled : s!"\t\t{value},".toList = "\t\t".toList ++ (value.toList ++ [',']) := by
    simp [toString]
  have named := name?_append identifier (endsName_cons (c := ',') (by decide) [])
  simp only [element?, spelled, after?_append, named, Option.bind_eq_bind, Option.bind_some,
    ↓reduceIte]

theorem tableRow?_written {value : String} (identifier : isIdentifier value = true)
    (width : Nat) :
    tableRow? s!"\t\t{padTo width (Registry.key value)} {value}," = some ⟨value, value⟩ := by
  have spelled : s!"\t\t{padTo width (Registry.key value)} {value},".toList =
      "\t\t".toList ++ (value.toList ++ (".String():".toList ++
        (List.replicate (width - (Registry.key value).length) ' ' ++
          ' ' :: (value.toList ++ [','])))) := by
    simp [toString, toList_padTo, Registry.key]
  have keyed : ∀ rest, name? (value.toList ++ (".String():".toList ++ rest)) =
      some (value, ".String():".toList ++ rest) :=
    fun rest => name?_append identifier (endsName_text (c := '.') (by simp) (by decide) rest)
  have named := name?_append identifier (endsName_cons (c := ',') (by decide) [])
  simp only [tableRow?, spelled, after?_append, keyed, named, dropSpaces_name identifier,
    Option.bind_eq_bind, Option.bind_some, ↓reduceIte]

theorem composite?_written {beginning type opening : String} {body : List String}
    (typed : isIdentifier type = true)
    (spelled : opening.toList = beginning.toList ++ (type.toList ++ ['\x7b'])) :
    composite? beginning (opening :: (body ++ ["\t\x7d"])) = some (type, body) := by
  have named := name?_append typed (endsName_cons (c := '\x7b') (by decide) [])
  simp only [composite?, spelled, after?_append, named, Option.bind_eq_bind, Option.bind_some]
  simp

theorem mapM_map_eq_some {α β : Type} {write : String → α} {read : α → Option β}
    {meant : String → β} {names : List String}
    (back : ∀ name ∈ names, read (write name) = some (meant name)) :
    (names.map write).mapM read = some (names.map meant) := by
  induction names with
  | nil => rfl
  | cons name rest ih =>
      rw [List.map_cons, List.mapM_cons, back name (by simp),
        ih fun other member => back other (List.mem_cons_of_mem name member)]
      rfl

/-! The table of a rendered file. -/

theorem splitAtBlank_append {first second : List String} (whole : ∀ line ∈ first, line ≠ "") :
    splitAtBlank (first ++ [""] ++ second) = (first, second) := by
  have kept : ∀ line ∈ first, decide (line ≠ "") = true := by simpa using whole
  rw [splitAtBlank, List.append_assoc, List.takeWhile_append_of_pos kept,
    List.dropWhile_append_of_pos kept]
  simp

theorem declaring?_of_mem {found : List Block} {block : Block} {name : String}
    (once : (found.flatMap Block.declares).Nodup) (member : block ∈ found)
    (declares : name ∈ block.declares) : declaring? name found = some block := by
  induction found with
  | nil => contradiction
  | cons first rest ih =>
      rw [List.flatMap_cons, List.nodup_append] at once
      obtain ⟨_, later, apart⟩ := once
      rw [declaring?]
      rcases List.mem_cons.mp member with rfl | inRest
      · exact List.find?_cons_of_pos (by simpa using declares)
      · have other : name ∉ first.declares := by
          intro here
          exact apart name here name (List.mem_flatMap.mpr ⟨block, inRest, declares⟩) rfl
        rw [List.find?_cons_of_neg (by simpa using other)]
        exact ih later inRest

theorem declaring?_eq_none {found : List Block} {name : String}
    (absent : name ∉ found.flatMap Block.declares) : declaring? name found = none := by
  apply List.find?_eq_none.mpr
  intro block member
  simp only [List.contains_eq_mem, decide_eq_true_eq]
  exact fun declares => absent (List.mem_flatMap.mpr ⟨block, member, declares⟩)

section Rendered

variable {spec : Spec} {license : Option String}

theorem declaredNames_nodup (valid : spec.Valid) (license : Option String) :
    (declaredNames (Model.ofSpec spec license).render).Nodup := by
  rw [declaredNames_render (valid.sound license), declares_ofSpec]
  exact packageNames_nodup valid

theorem declaring?_render (valid : spec.Valid) {declaration : Declaration} (name : String)
    (member : declaration ∈ (Model.ofSpec spec license).declarations)
    (declares : name ∈ declaration.declares) :
    declaring? name (blocks (linesOf (Model.ofSpec spec license).render)) =
      some declaration.block := by
  have sound := valid.sound license
  apply declaring?_of_mem (declaredNames_nodup valid license)
  · rw [blocks_render sound]
    exact List.mem_append_right _ (List.mem_map_of_mem member)
  · rw [Declaration.declares_block (named_of_mem_declarations sound declaration member)]
    exact declares

theorem registry_mem_declarations (model : Model) :
    Declaration.valueRegistry model.registry ∈ model.declarations := by
  simp [Model.declarations, Model.baseDeclarations]

theorem namedType?_base {model : Model} (sound : model.Sound) :
    model.names.base ∈ (blocks (linesOf model.render)).filterMap namedType? := by
  have method : Declaration.method ⟨"b", model.names.base⟩ "String" "() string"
      ["return b.name"] ∈ model.declarations := by
    simp [Model.declarations, Model.baseDeclarations]
  have spelled : s!"func (b {model.names.base}) String() string \x7b".toList =
      "func (b ".toList ++ (model.names.base.toList ++ ") String() string \x7b".toList) := by
    simp [toString]
  have type : name? (model.names.base.toList ++ ") String() string \x7b".toList) =
      some (model.names.base, ") String() string \x7b".toList) :=
    name?_append (isIdentifier_names sound).2.1
      (endsName_cons (c := ')') (by decide) " String() string \x7b".toList)
  have read : namedType? ⟨s!"func (b {model.names.base}) String() string \x7b",
      ["\treturn b.name"]⟩ = some model.names.base := by
    simp only [namedType?, spelled, after?_append, type, Option.bind_eq_bind, Option.bind_some,
      and_self, ↓reduceIte]
  rw [blocks_render sound, List.mem_filterMap]
  refine ⟨_, List.mem_append_right _ (List.mem_map_of_mem method), ?_⟩
  simpa [Declaration.block, bracedBlock, Declaration.indent, toString,
    String.append_assoc] using read

theorem ne_empty_of_tab {beginning rest : String}
    (first : beginning.toList.head? = some '\t') : beginning ++ rest ≠ "" := by
  intro empty
  have start := head?_append rest first
  rw [empty] at start
  contradiction

theorem Registry.ne_empty_of_mem {registry : Registry} :
    (∀ line ∈ registry.singletonLines, line ≠ "") ∧ ∀ line ∈ registry.listLines, line ≠ "" := by
  simp only [Registry.singletonLines, Registry.listLines, List.forall_mem_append,
    List.forall_mem_map, List.forall_mem_singleton, toString, String.append_assoc]
  refine ⟨?_, ⟨?_, ?_⟩, by simp⟩
  · exact fun value _ => ne_empty_of_tab (by simp)
  · exact ne_empty_of_tab (by simp)
  · exact fun value _ => ne_empty_of_tab (by simp)

end Rendered

def Registry.table (registry : Registry) (named : List String) : LookupTable where
  interface := registry.interface
  singletons := registry.values.map fun value => ⟨value, registry.base, value⟩
  elements := registry.values
  entries := registry.values.map fun value => ⟨value, value⟩
  named := named

theorem Registry.splitAtBlank_block (registry : Registry) :
    splitAtBlank registry.block.body =
      (registry.singletonLines, registry.listLines ++ [""] ++ registry.tableLines) := by
  have body : registry.block.body =
      registry.singletonLines ++ [""] ++ (registry.listLines ++ [""] ++ registry.tableLines) := by
    simp [Registry.block]
  rw [body, splitAtBlank_append Registry.ne_empty_of_mem.1]

theorem Registry.splitAtBlank_listLines (registry : Registry) :
    splitAtBlank (registry.listLines ++ [""] ++ registry.tableLines) =
      (registry.listLines, registry.tableLines) :=
  splitAtBlank_append Registry.ne_empty_of_mem.2

theorem Registry.composite?_tableLines {registry : Registry}
    (interface : isIdentifier registry.interface = true) :
    composite? "\tallValuesByString = map[string]" registry.tableLines =
      some (registry.interface, registry.values.map fun value =>
        s!"\t\t{padTo (columnWidth (registry.values.map key)) (key value)} {value},") :=
  composite?_written interface (by simp [toString])

theorem Registry.ofBody?_block {registry : Registry} (named : List String)
    (interface : isIdentifier registry.interface = true)
    (base : isIdentifier registry.base = true)
    (values : ∀ value ∈ registry.values, isIdentifier value = true) :
    LookupTable.ofBody? registry.block.body named = some (registry.table named) := by
  have list : composite? "\tallValues = []" registry.listLines =
      some (registry.interface, registry.values.map fun value => s!"\t\t{value},") :=
    composite?_written interface (by simp [toString])
  have singletons : registry.singletonLines.mapM singleton? =
      some (registry.values.map fun value => ⟨value, registry.base, value⟩) :=
    mapM_map_eq_some fun name member => singleton?_written (values name member) base _
  have elements : (registry.values.map fun value => s!"\t\t{value},").mapM element? =
      some (registry.values.map id) :=
    mapM_map_eq_some fun name member => element?_written (values name member)
  have entries : ∀ width, (registry.values.map fun value =>
      s!"\t\t{padTo width (key value)} {value},").mapM tableRow? =
        some (registry.values.map fun value => ⟨value, value⟩) :=
    fun width => mapM_map_eq_some fun name member =>
      tableRow?_written (values name member) width
  simp only [LookupTable.ofBody?, Registry.splitAtBlank_block, Registry.splitAtBlank_listLines,
    list, Registry.composite?_tableLines interface, singletons, elements, entries,
    Option.bind_eq_bind, Option.bind_some, ↓reduceIte, List.map_id]
  rfl

theorem ofBlocks?_render {spec : Spec} (valid : spec.Valid) (license : Option String) :
    LookupTable.ofBlocks? (blocks (linesOf (Model.ofSpec spec license).render)) =
      some ((Model.ofSpec spec license).registry.table
        ((blocks (linesOf (Model.ofSpec spec license).render)).filterMap namedType?)) := by
  have sound := valid.sound license
  obtain ⟨interface, base, _⟩ := isIdentifier_names sound
  have block := declaring?_render valid "allValues"
    (registry_mem_declarations (Model.ofSpec spec license))
    (by simp [Declaration.declares, Registry.declares])
  rw [LookupTable.ofBlocks?, block, Option.bind_eq_bind, Option.bind_some]
  exact Registry.ofBody?_block _ interface base fun _ member => sound.value_identifier member

/-! Looking values up. -/

namespace Registry

variable {registry : Registry} {named : List String}

theorem singletonOf?_table {value : String} (member : value ∈ registry.values) :
    (registry.table named).singletonOf? value = some ⟨value, registry.base, value⟩ := by
  have itself : registry.values.find? (· = value) = some value := by
    cases found : registry.values.find? (· = value) with
    | none => simpa using List.find?_eq_none.mp found value member
    | some other =>
        have same : other = value := by simpa using List.find?_some found
        rw [same]
  rw [LookupTable.singletonOf?, Registry.table, List.find?_map]
  exact congrArg (Option.map _) itself

theorem string?_table (answers : registry.base ∈ named) {value : String}
    (member : value ∈ registry.values) :
    (registry.table named).string? value = some value := by
  rw [LookupTable.string?, singletonOf?_table member, Option.bind_eq_bind, Option.bind_some]
  exact if_pos answers

theorem lookup_table (answers : registry.base ∈ named) (name : String) :
    (registry.table named).lookup name =
      if name ∈ registry.values then some ⟨name, registry.base, name⟩ else none := by
  obtain ⟨matching, selected⟩ : ∃ matching, matching = (registry.table named).entries.filter
    fun entry => (registry.table named).string? entry.keyed = some name := ⟨_, rfl⟩
  have mem_iff : ∀ entry, entry ∈ matching ↔ name ∈ registry.values ∧ entry = ⟨name, name⟩ := by
    intro entry
    rw [selected, List.mem_filter, decide_eq_true_eq]
    constructor
    · rintro ⟨member, keyed⟩
      obtain ⟨value, declared, rfl⟩ := List.mem_map.mp member
      rw [string?_table answers declared, Option.some.injEq] at keyed
      subst value
      exact ⟨declared, rfl⟩
    · rintro ⟨declared, rfl⟩
      exact ⟨List.mem_map_of_mem declared, string?_table answers declared⟩
  rw [LookupTable.lookup, ← selected]
  split
  · rename_i declared
    cases last : matching.getLast? with
    | none =>
        have nothing : matching = [] := List.getLast?_eq_none_iff.mp last
        have one := (mem_iff ⟨name, name⟩).mpr ⟨declared, rfl⟩
        rw [nothing] at one
        contradiction
    | some entry =>
        obtain ⟨_, rfl⟩ := (mem_iff entry).mp (List.mem_of_getLast? last)
        exact singletonOf?_table declared
  · rename_i undeclared
    have nothing : matching = [] :=
      List.eq_nil_iff_forall_not_mem.mpr fun entry member =>
        undeclared ((mem_iff entry).mp member).1
    rw [nothing]
    rfl

end Registry

/-! The lookup that never fails. -/

theorem fallbackLookup_not_declared {spec : Spec} (valid : spec.Valid)
    (none : spec.undefined? = none) : "OfOrUndefined" ∉ spec.packageNames := by
  have type : "OfOrUndefined" ≠ spec.typeName := by
    intro same
    exact valid.typeName_free (by simp [← same, generatedFunctions])
  have value : "OfOrUndefined" ∉ spec.values := by
    intro declared
    exact value_not_mem_fixedNames valid declared (by simp [fixedNames])
  have optional : ∀ (condition : Bool) (name : String),
      "OfOrUndefined" ≠ name → "OfOrUndefined" ∉ if condition then [name] else [] := by
    intro condition name other
    cases condition <;> simp [other]
  simp only [Spec.packageNames, none, List.mem_append, not_or]
  simp [type, value, DerivedNames.ofType, ← String.toList_inj]

theorem fallback?_render {spec : Spec} (valid : spec.Valid) (license : Option String) :
    fallback? (blocks (linesOf (Model.ofSpec spec license).render)) = spec.undefined? := by
  have sound := valid.sound license
  cases found : spec.undefined? with
  | none =>
      have absent := fallbackLookup_not_declared valid found
      rw [← declares_ofSpec spec license, ← declaredNames_render sound] at absent
      rw [fallback?, declaring?_eq_none absent]
      rfl
  | some value =>
      have undefined : (Model.ofSpec spec license).undefined = some value := found
      have member : (Model.ofSpec spec license).fallbackLookup value ∈
          (Model.ofSpec spec license).declarations := by
        simp [Model.declarations, undefined]
      have block := declaring?_render valid "OfOrUndefined" member
        (by simp [Model.fallbackLookup, Declaration.declares])
      have identifier := sound.undefined_identifier undefined
      have named : name? (value.toList ++ []) = some (value, []) :=
        name?_append identifier (by simp [EndsName])
      have spelled : (Declaration.indent s!"return {value}").toList =
          "\treturn ".toList ++ (value.toList ++ []) := by
        simp [Declaration.indent, toString]
      have last : ((Model.ofSpec spec license).fallbackLookup value).block.body.getLast? =
          some (Declaration.indent s!"return {value}") := by
        simp [Model.fallbackLookup, Declaration.block, bracedBlock]
      simp only [fallback?, block, last, spelled, after?_append, named, Option.bind_eq_bind,
        Option.bind_some, ↓reduceIte]

/-! The registry of an accepted specification. -/

/-- The emitted table holds the declared values and nothing else: each value is bound to a record
with its own name, stands in the list and in the table at its place, and is found by that name
alone. -/
theorem lookupTable_of_valid (spec : Spec) (license : Option String)
    (accepted : spec.validate = .ok ()) :
    let names := DerivedNames.ofType spec.typeName
    let found := blocks (linesOf (Model.ofSpec spec license).render)
    ∃ table, LookupTable.ofBlocks? found = some table ∧
      table.interface = names.interface ∧
      table.singletons = spec.values.map (fun value => ⟨value, names.base, value⟩) ∧
      (∀ value ∈ spec.values, ∀ c ∈ value.toList, isPlain c = true) ∧
      table.elements = spec.values ∧
      table.entries = spec.values.map (fun value => ⟨value, value⟩) ∧
      (table.entries.map fun entry => table.string? entry.keyed) = spec.values.map some ∧
      (table.entries.map fun entry => table.string? entry.keyed).Nodup ∧
      (∀ name ∈ spec.values, table.lookup name = some ⟨name, names.base, name⟩) ∧
      (∀ name, name ∉ spec.values → table.lookup name = none) ∧
      table.lookup "" = none ∧
      ∀ value, spec.undefined? = some value →
        fallback? found = some value ∧ ⟨value, names.base, value⟩ ∈ table.singletons := by
  have valid := Spec.validate_eq_ok_iff.mp accepted
  have sound := valid.sound license
  intro names found
  have answers : (Model.ofSpec spec license).registry.base ∈ found.filterMap namedType? :=
    namedType?_base sound
  have identifiers : ∀ value ∈ spec.values, isIdentifier value = true :=
    fun value declared => sound.value_identifier declared
  have keys : (spec.values.map fun value => ((Model.ofSpec spec license).registry.table
      (found.filterMap namedType?)).string? value) = spec.values.map some :=
    List.map_congr_left fun value declared => Registry.string?_table answers declared
  have lookup := Registry.lookup_table answers
  have nothing : "" ∉ spec.values := by
    intro declared
    exact ne_empty_of_isIdentifier (identifiers "" declared) rfl
  refine ⟨_, ofBlocks?_render valid license, rfl, rfl, ?_, rfl, rfl, ?_, ?_, ?_, ?_, ?_, ?_⟩
  · exact fun value declared => isPlain_of_isIdentifier (identifiers value declared)
  · rw [← keys]
    exact List.map_map
  · have distinct : (spec.values.map some).Nodup :=
      List.Pairwise.map some (fun _ _ other same => other (Option.some.inj same))
        valid.values_nodup
    rw [← keys] at distinct
    exact List.map_map ▸ distinct
  · exact fun name declared => (lookup name).trans (if_pos declared)
  · exact fun name undeclared => (lookup name).trans (if_neg undeclared)
  · exact (lookup "").trans (if_neg nothing)
  · intro value undefined
    refine ⟨(fallback?_render valid license).trans undefined, ?_⟩
    exact List.mem_map_of_mem (valid.undefined_declared value undefined)

def colorSpec : Spec where
  destination := ⟨"color.go"⟩
  licenseFile := none
  package := "colors"
  typeName := "Color"
  values := ["Undefined", "Red", "Ärgerlich", "Ö2"]
  undefinedValue := some "Undefined"
  json := ⟨true, false⟩

theorem lookupTable_colorSpec :
    colorSpec.validate = .ok () ∧
      ∃ table, LookupTable.ofBlocks? (blocks (linesOf (Model.ofSpec colorSpec none).render)) =
          some table ∧
        table.elements = ["Undefined", "Red", "Ärgerlich", "Ö2"] ∧
        table.lookup "Ö2" = some ⟨"Ö2", "baseColor", "Ö2"⟩ ∧
        table.lookup "red" = none ∧
        fallback? (blocks (linesOf (Model.ofSpec colorSpec none).render)) =
          some "Undefined" := by
  have accepted : colorSpec.validate = .ok () := rfl
  obtain ⟨table, read, _, _, _, elements, _, _, _, found, absent, _, undefined⟩ :=
    lookupTable_of_valid colorSpec none accepted
  exact ⟨accepted, table, read, elements, found "Ö2" (by simp [colorSpec]),
    absent "red" (by simp [colorSpec]), (undefined "Undefined" rfl).1⟩

end SealedEnum.Source
