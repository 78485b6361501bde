import SealedEnum.Proofs.Source.Block

namespace SealedEnum.Source

open SealedEnum.Identifier

/-! The package-level names of a source file, read off its text. -/

/-- What follows a fixed beginning of a text. -/
def after? (beginning : String) (text : List Char) : Option (List Char) :=
  beginning.toList.isPrefixOf? text

def name? (text : List Char) : Option (String × List Char) :=
  match text.takeWhile isPart with
  | [] => none
  | c :: rest => some (String.ofList (c :: rest), text.dropWhile isPart)

def leadingName? (text : List Char) : Option String :=
  (name? text).map Prod.fst

/-- The variable that a line of a group declares: its name stands one tab deep. -/
def declaredInGroup (line : String) : Option String :=
  (after? "\t" line.toList).bind leadingName?

/-- The names of a type, of a function, or of a group of variables. The receiver of a method
stands where a function has its name. -/
def Block.declares (block : Block) : List String :=
  match after? "type " block.opening.toList, after? "func " block.opening.toList with
  | some rest, _ => (leadingName? rest).toList
  | none, some rest => (leadingName? rest).toList
  | none, none => if block.opening = "var (" then block.body.filterMap declaredInGroup else []

def declaredNames (text : String) : List String :=
  (blocks (linesOf text)).flatMap Block.declares

theorem after?_append (beginning : String) (rest : List Char) :
    after? beginning (beginning.toList ++ rest) = some rest := by
  simp [after?]

theorem after?_eq_none {beginning : String} {c actual : Char} {others rest : List Char}
    (spelled : beginning.toList = c :: others) (other : c ≠ actual) :
    after? beginning (actual :: rest) = none := by
  simp [after?, spelled, List.isPrefixOf?, other]

/-- Text that no name in front of it reaches into. -/
def EndsName (rest : List Char) : Prop :=
  ∀ c ∈ rest.head?, isPart c = false

theorem endsName_cons {c : Char} (outside : isPart c = false) (rest : List Char) :
    EndsName (c :: rest) := by
  simpa [EndsName] using outside

theorem endsName_text {beginning : String} {c : Char}
    (first : beginning.toList.head? = some c) (outside : isPart c = false) (rest : List Char) :
    EndsName (beginning.toList ++ rest) := by
  obtain ⟨others, spelled⟩ := List.head?_eq_some_iff.mp first
  rw [spelled]
  exact endsName_cons outside (others ++ rest)

theorem endsName_replicate (count : Nat) (rest : List Char) :
    EndsName (List.replicate count ' ' ++ ' ' :: rest) := by
  cases count with
  | zero => exact endsName_cons (by decide) rest
  | succ count => exact endsName_cons (by decide) (List.replicate count ' ' ++ ' ' :: rest)

theorem takeWhile_isPart_eq_nil {rest : List Char} (ends : EndsName rest) :
    rest.takeWhile isPart = [] ∧ rest.dropWhile isPart = rest := by
  cases rest with
  | nil => simp
  | cons c others =>
      have outside : isPart c = false := ends c rfl
      simp [outside]

theorem name?_append {name : String} (identifier : isIdentifier name = true)
    {rest : List Char} (ends : EndsName rest) :
    name? (name.toList ++ rest) = some (name, rest) := by
  have parts : ∀ c ∈ name.toList, isPart c = true :=
    fun _ member => isPart_of_mem identifier member
  have before : (name.toList ++ rest).takeWhile isPart = name.toList := by
    rw [List.takeWhile_append_of_pos parts, (takeWhile_isPart_eq_nil ends).1, List.append_nil]
  have behind : (name.toList ++ rest).dropWhile isPart = rest := by
    rw [List.dropWhile_append_of_pos parts, (takeWhile_isPart_eq_nil ends).2]
  obtain ⟨first, others, spelled, _, _⟩ := isIdentifier_iff.mp identifier
  rw [name?, before, behind, spelled]
  exact congrArg (fun text => some (text, rest)) (by rw [← spelled, String.ofList_toList])

theorem leadingName?_append {name : String} (identifier : isIdentifier name = true)
    {rest : List Char} (ends : EndsName rest) :
    leadingName? (name.toList ++ rest) = some name := by
  rw [leadingName?, name?_append identifier ends]
  rfl

theorem leadingName?_eq_none {rest : List Char} (ends : EndsName rest) :
    leadingName? rest = none := by
  rw [leadingName?, name?, (takeWhile_isPart_eq_nil ends).1]
  rfl

/-! What each kind of declaration adds to the package. -/

theorem Block.declares_of_type {block : Block} {name : String} {rest : List Char}
    (identifier : isIdentifier name = true)
    (spelled : block.opening.toList = "type ".toList ++ (name.toList ++ ' ' :: rest)) :
    block.declares = [name] := by
  rw [Block.declares, spelled, after?_append]
  simp [leadingName?_append identifier (endsName_cons (by decide : isPart ' ' = false) rest)]

theorem Block.declares_of_function {block : Block} {name : String} {rest : List Char}
    (identifier : isIdentifier name = true)
    (spelled : block.opening.toList = "func ".toList ++ (name.toList ++ '(' :: rest)) :
    block.declares = [name] := by
  have other : after? "type " block.opening.toList = none := by
    rw [spelled]
    exact after?_eq_none (c := 't') (by simp; rfl) (by decide)
  rw [Block.declares, other, spelled, after?_append]
  simp [leadingName?_append identifier (endsName_cons (by decide : isPart '(' = false) rest)]

theorem Block.declares_of_method {block : Block} {rest : List Char}
    (spelled : block.opening.toList = "func ".toList ++ '(' :: rest) :
    block.declares = [] := by
  have other : after? "type " block.opening.toList = none := by
    rw [spelled]
    exact after?_eq_none (c := 't') (by simp; rfl) (by decide)
  rw [Block.declares, other, spelled, after?_append]
  simp [leadingName?_eq_none (endsName_cons (by decide : isPart '(' = false) rest)]

theorem declaredInGroup_of_toList {line name : String} {rest : List Char}
    (identifier : isIdentifier name = true) (ends : EndsName rest)
    (spelled : line.toList = '\t' :: (name.toList ++ rest)) :
    declaredInGroup line = some name := by
  have tabbed : after? "\t" line.toList = some (name.toList ++ rest) := by
    rw [spelled]
    exact after?_append "\t" _
  rw [declaredInGroup, tabbed]
  exact leadingName?_append identifier ends

theorem declaredInGroup_deeper (rest : String) : declaredInGroup ("\t\t" ++ rest) = none := by
  rw [declaredInGroup, String.toList_append]
  exact leadingName?_eq_none (endsName_cons (c := '\t') (by decide) rest.toList)

theorem toList_padTo (width : Nat) (text : String) :
    (padTo width text).toList =
      text.toList ++ List.replicate (width - text.length) ' ' := by
  simp [padTo]

theorem filterMap_map_eq_self {write : String → String} {read : String → Option String}
    {names : List String} (back : ∀ name ∈ names, read (write name) = some name) :
    (names.map write).filterMap read = names := by
  induction names with
  | nil => rfl
  | cons name rest ih =>
      rw [List.map_cons, List.filterMap_cons_some (back name (by simp)),
        ih fun other member => back other (List.mem_cons_of_mem name member)]

theorem filterMap_map_eq_nil {write : String → String} {read : String → Option String}
    (names : List String) (skipped : ∀ name, read (write name) = none) :
    (names.map write).filterMap read = [] := by
  rw [List.filterMap_map]
  exact List.filterMap_eq_nil_iff.mpr fun name _ => skipped name

theorem Registry.filterMap_singletonLines {registry : Registry}
    (values : ∀ value ∈ registry.values, isIdentifier value = true) :
    registry.singletonLines.filterMap declaredInGroup = registry.values := by
  apply filterMap_map_eq_self
  intro value member
  apply declaredInGroup_of_toList (values value member)
    (endsName_replicate (columnWidth registry.values - value.length)
      s!"= {registry.base}\x7bname: \"{value}\"\x7d".toList)
  simp [toString, toList_padTo]

theorem Registry.filterMap_listLines (registry : Registry) :
    registry.listLines.filterMap declaredInGroup = ["allValues"] := by
  have opening : declaredInGroup s!"\tallValues = []{registry.interface}\x7b" =
      some "allValues" := by
    apply declaredInGroup_of_toList (by decide)
      (endsName_replicate 0 s!"= []{registry.interface}\x7b".toList)
    simp [toString]
  have elements : (registry.values.map fun value => s!"\t\t{value},").filterMap
      declaredInGroup = [] := by
    apply filterMap_map_eq_nil
    intro value
    simp only [toString, String.append_assoc]
    exact declaredInGroup_deeper _
  have closing : declaredInGroup "\t\x7d" = none := rfl
  simp [Registry.listLines, List.filterMap_append, opening, elements, closing]

theorem Registry.filterMap_tableLines (registry : Registry) :
    registry.tableLines.filterMap declaredInGroup = ["allValuesByString"] := by
  have opening :
      declaredInGroup s!"\tallValuesByString = map[string]{registry.interface}\x7b" =
        some "allValuesByString" := by
    apply declaredInGroup_of_toList (by decide)
      (endsName_replicate 0 s!"= map[string]{registry.interface}\x7b".toList)
    simp [toString]
  have elements : ∀ width, (registry.values.map fun value =>
      s!"\t\t{padTo width (key value)} {value},").filterMap declaredInGroup = [] := by
    intro width
    apply filterMap_map_eq_nil
    intro value
    simp only [toString, String.append_assoc]
    exact declaredInGroup_deeper _
  have closing : declaredInGroup "\t\x7d" = none := rfl
  simp [Registry.tableLines, List.filterMap_append, opening, elements, closing]

theorem Registry.declares_block {registry : Registry}
    (values : ∀ value ∈ registry.values, isIdentifier value = true) :
    registry.block.declares = registry.declares := by
  have noType : after? "type " "var (".toList = none := rfl
  have noFunction : after? "func " "var (".toList = none := rfl
  have blank : declaredInGroup "" = none := rfl
  simp only [Block.declares, Registry.block, noType, noFunction, ↓reduceIte,
    List.filterMap_append, Registry.filterMap_singletonLines values,
    Registry.filterMap_listLines, Registry.filterMap_tableLines]
  simp [Registry.declares, blank]

def Declaration.Named : Declaration → Prop
  | .interface name _ | .record name _ => isIdentifier name = true
  | .valueRegistry registry => ∀ value ∈ registry.values, isIdentifier value = true
  | .function name signature _ =>
      isIdentifier name = true ∧ ∃ rest, signature.toList = '(' :: rest
  | .method _ _ _ _ => True

theorem opening_bracedBlock (opening : String) (body : List String) :
    ∃ ending, (bracedBlock opening body).opening.toList = opening.toList ++ ' ' :: ending := by
  unfold bracedBlock
  split
  · exact ⟨['\x7b', '\x7d'], by simp⟩
  · exact ⟨['\x7b'], by simp⟩

theorem Declaration.declares_block {declaration : Declaration} (named : declaration.Named) :
    declaration.block.declares = declaration.declares := by
  cases declaration with
  | interface name methods =>
      obtain ⟨ending, spelled⟩ := opening_bracedBlock s!"type {name} interface" methods
      have whole : (Declaration.interface name methods).block.opening.toList =
          "type ".toList ++ (name.toList ++ ' ' :: ("interface".toList ++ ' ' :: ending)) := by
        simpa [Declaration.block, toString] using spelled
      exact Block.declares_of_type named whole
  | record name fields =>
      obtain ⟨ending, spelled⟩ := opening_bracedBlock s!"type {name} struct" fields
      have whole : (Declaration.record name fields).block.opening.toList =
          "type ".toList ++ (name.toList ++ ' ' :: ("struct".toList ++ ' ' :: ending)) := by
        simpa [Declaration.block, toString] using spelled
      exact Block.declares_of_type named whole
  | valueRegistry registry => exact Registry.declares_block named
  | function name signature body =>
      obtain ⟨identifier, parameters, signed⟩ := named
      obtain ⟨ending, spelled⟩ := opening_bracedBlock s!"func {name}{signature}" body
      have whole : (Declaration.function name signature body).block.opening.toList =
          "func ".toList ++ (name.toList ++ '(' :: (parameters ++ ' ' :: ending)) := by
        simpa [Declaration.block, toString, signed] using spelled
      exact Block.declares_of_function identifier whole
  | method receiver name signature body =>
      obtain ⟨ending, spelled⟩ := opening_bracedBlock
        s!"func ({receiver.name} {receiver.type}) {name}{signature}" body
      have whole : (Declaration.method receiver name signature body).block.opening.toList =
          "func ".toList ++ '(' ::
            (s!"{receiver.name} {receiver.type}) {name}{signature}".toList ++ ' ' :: ending) := by
        simpa [Declaration.block, toString] using spelled
      exact Block.declares_of_method whole

/-! The package-level names of a rendered model. -/

theorem isIdentifier_names {model : Model} (sound : model.Sound) :
    isIdentifier model.names.interface = true ∧ isIdentifier model.names.base = true ∧
      isIdentifier model.names.marshallable = true ∧
        isIdentifier model.names.invalidNameError = true ∧
          isIdentifier model.names.invalidNameConstructor = true := by
  have parts : ∀ c ∈ model.typeName.toList, isPart c = true :=
    fun _ member => isPart_of_mem sound.typeName_identifier member
  have suffix : ∀ c ∈ "NameError".toList, isPart c = true :=
    List.all_eq_true.mp (by decide +kernel)
  exact ⟨sound.typeName_identifier, isIdentifier_append (by decide) parts,
    isIdentifier_append (by decide) parts,
    isIdentifier_append (isIdentifier_append (by decide) parts) suffix,
    isIdentifier_append (isIdentifier_append (by decide) parts) suffix⟩

theorem named_of_mem_declarations {model : Model} (sound : model.Sound) :
    ∀ declaration ∈ model.declarations, declaration.Named := by
  obtain ⟨interface, base, marshallable, invalidNameError, constructor⟩ :=
    isIdentifier_names sound
  have values : ∀ value ∈ model.values, isIdentifier value = true :=
    fun _ member => sound.value_identifier member
  simp only [Model.declarations, List.forall_mem_append]
  refine ⟨⟨⟨⟨?_, ?_⟩, ?_⟩, ?_⟩, ?_⟩
  · simp only [Model.baseDeclarations, List.forall_mem_cons, Declaration.Named, Model.registry]
    exact ⟨interface, base, trivial, trivial, values, ⟨by decide, by simp [toString]⟩, by simp⟩
  · simp only [List.forall_mem_singleton, Model.strictLookup, Declaration.Named]
    exact ⟨by decide, by simp [toString]⟩
  · intro declaration member
    obtain ⟨value, _, rfl⟩ := List.mem_map.mp member
    exact ⟨by decide, by simp [toString]⟩
  · split
    · simp only [Model.jsonDeclarations, List.forall_mem_cons, Declaration.Named]
      exact ⟨marshallable, trivial, trivial, trivial, trivial, by simp⟩
    · simp
  · simp only [Model.errorDeclarations, List.forall_mem_cons, Declaration.Named]
    exact ⟨invalidNameError, trivial, trivial, ⟨constructor, by simp [toString]⟩, by simp⟩

theorem Block.declares_eq_nil {block : Block} {c : Char}
    (first : block.opening.toList.head? = some c) (noType : c ≠ 't') (noFunction : c ≠ 'f')
    (noGroup : block.opening ≠ "var (") : block.declares = [] := by
  obtain ⟨rest, spelled⟩ := List.head?_eq_some_iff.mp first
  have typeless : after? "type " block.opening.toList = none := by
    rw [spelled]
    exact after?_eq_none (c := 't') (by simp; rfl) (Ne.symm noType)
  have functionless : after? "func " block.opening.toList = none := by
    rw [spelled]
    exact after?_eq_none (c := 'f') (by simp; rfl) (Ne.symm noFunction)
  simp [Block.declares, typeless, functionless, noGroup]

theorem declares_importBlocks (imports : List String) :
    (importBlocks imports).flatMap Block.declares = [] := by
  unfold importBlocks
  split
  · rfl
  · rw [List.flatMap_singleton]
    exact Block.declares_eq_nil (c := 'i') (by simp) (by decide) (by decide) (by simp)

theorem Block.declares_package (package : String) :
    Block.declares ⟨s!"package {package}", []⟩ = [] := by
  apply Block.declares_eq_nil (c := 'p') (by simp [toString]) (by decide) (by decide)
  intro same
  simpa [toString] using congrArg String.toList same

theorem declares_declarations {declarations : List Declaration}
    (named : ∀ declaration ∈ declarations, declaration.Named) :
    (declarations.map Declaration.block).flatMap Block.declares =
      declarations.flatMap Declaration.declares := by
  rw [List.flatMap_map]
  exact List.flatMap_congr fun declaration member =>
    Declaration.declares_block (named declaration member)

theorem declaredNames_render {model : Model} (sound : model.Sound) :
    declaredNames model.render = model.file.declares := by
  rw [declaredNames, blocks_render sound, List.flatMap_append, List.flatMap_append,
    declares_importBlocks, List.flatMap_singleton, Block.declares_package,
    declares_declarations (named_of_mem_declarations sound)]
  rfl

end SealedEnum.Source
