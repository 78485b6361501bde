import SealedEnum.Proofs.Source.PackageNames
import SealedEnum.Proofs.Source.Tokens

namespace SealedEnum

open SealedEnum.Identifier SealedEnum.Source

/-! The names that the lines of a file mention, outside of comments and literals. -/

/-- Fields and methods, which only stand behind a dot, in their type or in a composite value. -/
def memberNames : List String :=
  ["en", "String", "Error", "Name", "MarshalJSON", "UnmarshalJSON", "ToMarshallable",
    "FromMarshallable", "Marshal", "Unmarshal", "Errorf"]

/-- Functions and variables that every file declares under the same name. -/
def commonDeclarations : List String :=
  ["allValues", "allValuesByString", "Values", "Of"]

/-- Names that the language, a function or a type brings along, so that no file declares them for
its package. -/
def suppliedNames (typeName : String) : List String :=
  predeclaredNames ++ localNames ++ memberNames ++ [(DerivedNames.ofType typeName).sealMethod]

/-- The name of an imported package is the last part of its path. -/
def packageName (path : String) : String :=
  String.ofList (path.toList.reverse.takeWhile (· ≠ '/')).reverse

/-- What the code of a file may mention. -/
def Model.scope (model : Model) : List String :=
  keywords ++ suppliedNames model.typeName ++ model.imports.map packageName
    ++ model.file.declares

/-- Words of the language and of every file, the method that seals the type apart. -/
def fixedWords : List String :=
  predeclaredNames ++ localNames ++ memberNames ++ keywords

/-- The words that may stand in any file. -/
def commonWords : List String :=
  fixedWords ++ commonDeclarations

namespace Source

/-- From its mode on the text is read to the end of its line and mentions nothing but what is
allowed. -/
structure MentionsOnly (allowed : String → Prop) (mode : Mode) (text : String) : Prop where
  ends : (readFrom mode (text.toList ++ ['\n'])).mode = .code
  names : ∀ name ∈ namesOf (readFrom mode (text.toList ++ ['\n'])).found, allowed name

/-- The characters lead from one mode to another and mention nothing but the words. -/
def Leads (words : List String) (mode : Mode) (text : List Char) (next : Mode) : Prop :=
  (readFrom mode text).mode = next ∧ ∀ name ∈ namesOf (readFrom mode text).found, name ∈ words

instance (words : List String) (mode : Mode) (text : List Char) (next : Mode) :
    Decidable (Leads words mode text next) :=
  inferInstanceAs (Decidable (_ ∧ _))

/-- A name in front of the text ends there. -/
def separates (text : List Char) : Bool :=
  text.head?.any fun c => !isPart c

variable {allowed : String → Prop} {words : List String} {mode next : Mode}
variable {name text rest separator : String}

/-- A literal is checked character by character. -/
theorem leads_literal {content ending : List Char}
    (leads : Leads words mode (content ++ ending) next) :
    Leads words mode ((String.ofList content).toList ++ ending) next := by
  rwa [String.toList_ofList]

/-! What is mentioned, from the left to the right. -/

theorem Leads.mentionsOnly_append (leads : Leads words mode (text.toList ++ []) next)
    (known : ∀ word ∈ words, allowed word) :
    MentionsOnly allowed mode (text ++ rest) ↔ MentionsOnly allowed next rest := by
  rw [List.append_nil] at leads
  obtain ⟨moves, mentioned⟩ := leads
  have whole : readFrom mode ((text ++ rest).toList ++ ['\n']) =
      (readFrom next (rest.toList ++ ['\n'])).after (readFrom mode text.toList).found := by
    rw [String.toList_append, List.append_assoc, readFrom_append, moves]
  constructor
  · rintro ⟨ends, names⟩
    rw [whole] at ends names
    simp only [Reading.after, namesOf_append, List.forall_mem_append] at names
    exact ⟨ends, names.2⟩
  · rintro ⟨ends, names⟩
    constructor
    · rw [whole]
      exact ends
    · rw [whole, Reading.after, namesOf_append, List.forall_mem_append]
      exact ⟨fun name member => known name (mentioned name member), names⟩

theorem mentionsOnly_code (known : ∀ word ∈ words, allowed word)
    (leads : Leads words .code (text.toList ++ []) .code) :
    MentionsOnly allowed .code (text ++ rest) ↔ MentionsOnly allowed .code rest :=
  leads.mentionsOnly_append known

theorem mentionsOnly_opening (known : ∀ word ∈ words, allowed word)
    (leads : Leads words .code (text.toList ++ []) (.quoted '"')) :
    MentionsOnly allowed .code (text ++ rest) ↔ MentionsOnly allowed (.quoted '"') rest :=
  leads.mentionsOnly_append known

theorem mentionsOnly_last (known : ∀ word ∈ words, allowed word)
    (leads : Leads words mode (text.toList ++ ['\n']) .code) : MentionsOnly allowed mode text :=
  ⟨leads.1, fun name member => known name (leads.2 name member)⟩

theorem endsName_of_separates {before : List Char} (apart : separates before = true)
    (rest : List Char) : EndsName (before ++ rest) := by
  cases before with
  | nil => contradiction
  | cons c others => exact endsName_cons (by simpa [separates] using apart) (others ++ rest)

theorem mentionsOnly_identifier_append (identifier : isIdentifier name = true)
    (ends : EndsName (rest.toList ++ ['\n'])) :
    MentionsOnly allowed .code (name ++ rest) ↔
      allowed name ∧ MentionsOnly allowed .code rest := by
  have whole : readFrom .code ((name ++ rest).toList ++ ['\n']) =
      (readFrom .code (rest.toList ++ ['\n'])).after [.name name] := by
    rw [String.toList_append, List.append_assoc, readFrom_name identifier ends (by simp)]
  have found : namesOf ([.name name] ++ (readFrom .code (rest.toList ++ ['\n'])).found) =
      name :: namesOf (readFrom .code (rest.toList ++ ['\n'])).found := rfl
  constructor
  · rintro ⟨closed, names⟩
    rw [whole] at closed names
    rw [Reading.after, found, List.forall_mem_cons] at names
    exact ⟨names.1, closed, names.2⟩
  · rintro ⟨here, closed, names⟩
    constructor
    · rw [whole]
      exact closed
    · rw [whole, Reading.after, found, List.forall_mem_cons]
      exact ⟨here, names⟩

theorem mentionsOnly_name (identifier : isIdentifier name = true) :
    MentionsOnly allowed .code name ↔ allowed name := by
  have blank : MentionsOnly allowed .code "" :=
    mentionsOnly_last (List.forall_mem_nil _) (by decide)
  have whole : MentionsOnly allowed .code (name ++ "") ↔
      allowed name ∧ MentionsOnly allowed .code "" :=
    mentionsOnly_identifier_append identifier (endsName_cons (by decide) [])
  rwa [String.append_empty, and_iff_left blank] at whole

theorem mentionsOnly_name_separator (identifier : isIdentifier name = true)
    (apart : separates separator.toList = true) :
    MentionsOnly allowed .code (name ++ separator) ↔
      allowed name ∧ MentionsOnly allowed .code separator :=
  mentionsOnly_identifier_append identifier (endsName_of_separates apart ['\n'])

theorem mentionsOnly_name_append (identifier : isIdentifier name = true)
    (apart : separates separator.toList = true) :
    MentionsOnly allowed .code (name ++ (separator ++ rest)) ↔
      allowed name ∧ MentionsOnly allowed .code (separator ++ rest) := by
  apply mentionsOnly_identifier_append identifier
  rw [String.toList_append, List.append_assoc]
  exact endsName_of_separates apart _

theorem mentionsOnly_quoted {name : String} (identifier : isIdentifier name = true) :
    MentionsOnly allowed (.quoted '"') (name ++ rest) ↔
      MentionsOnly allowed (.quoted '"') rest := by
  have passes : readFrom (.quoted '"') name.toList = ⟨[], .quoted '"'⟩ := by
    apply readFrom_quoted
    intro c member
    have plain := isPlain_of_isIdentifier identifier c member
    simp only [isPlain, Bool.and_eq_true, bne_iff_ne] at plain
    exact ⟨plain.1.2, plain.1.1⟩
  have leads : Leads [] (.quoted '"') (name.toList ++ []) (.quoted '"') := by
    rw [Leads, List.append_nil, passes]
    exact ⟨rfl, List.forall_mem_nil _⟩
  exact leads.mentionsOnly_append (List.forall_mem_nil _)

theorem mentionsOnly_spaces (count : Nat) :
    MentionsOnly allowed .code (String.ofList (List.replicate count ' ') ++ rest) ↔
      MentionsOnly allowed .code rest := by
  have passes : readFrom .code (List.replicate count ' ') = ⟨[], .code⟩ := by
    induction count with
    | zero => rfl
    | succ count ih => exact ih
  have leads : Leads [] .code (List.replicate count ' ' ++ []) .code := by
    rw [Leads, List.append_nil, passes]
    exact ⟨rfl, List.forall_mem_nil _⟩
  exact (leads_literal leads).mentionsOnly_append (List.forall_mem_nil _)

theorem mentionsOnly_name_spaces {count : Nat} (identifier : isIdentifier name = true)
    (apart : separates separator.toList = true) :
    MentionsOnly allowed .code
        (name ++ (String.ofList (List.replicate count ' ') ++ (separator ++ rest))) ↔
      allowed name ∧ MentionsOnly allowed .code (separator ++ rest) := by
  have passed : MentionsOnly allowed .code
      (String.ofList (List.replicate count ' ') ++ (separator ++ rest)) ↔
        MentionsOnly allowed .code (separator ++ rest) :=
    mentionsOnly_spaces count
  rw [← passed]
  apply mentionsOnly_identifier_append identifier
  cases count with
  | zero =>
      simpa using endsName_of_separates apart (rest.toList ++ ['\n'])
  | succ count =>
      rw [String.toList_append, String.toList_ofList]
      exact endsName_cons (by decide) _

theorem mentionsOnly_indent :
    MentionsOnly allowed .code (Declaration.indent text) ↔ MentionsOnly allowed .code text := by
  unfold Declaration.indent
  split
  · rfl
  · exact mentionsOnly_code (List.forall_mem_nil _) (by decide)

theorem mentionsOnly_braced_nil {opening : String} :
    (∀ line ∈ Declaration.braced opening [], MentionsOnly allowed .code line) ↔
      MentionsOnly allowed .code (opening ++ " \x7b\x7d") := by
  simp [Declaration.braced]

theorem mentionsOnly_braced_cons {opening first : String} {others : List String} :
    (∀ line ∈ Declaration.braced opening (first :: others), MentionsOnly allowed .code line) ↔
      MentionsOnly allowed .code (opening ++ " \x7b") ∧
        ∀ line ∈ first :: others, MentionsOnly allowed .code line := by
  have closing : MentionsOnly allowed .code "\x7d" :=
    mentionsOnly_last (List.forall_mem_nil _) (by decide)
  unfold Declaration.braced
  rw [if_neg (by simp), List.forall_mem_append, List.forall_mem_append, List.forall_mem_map,
    List.forall_mem_singleton, List.forall_mem_singleton, and_iff_left closing]
  simp only [mentionsOnly_indent]

theorem Registry.mentionsOnly_lines {registry : Registry}
    (known : ∀ word ∈ commonWords, allowed word)
    (interface : isIdentifier registry.interface = true) (typed : allowed registry.interface)
    (base : isIdentifier registry.base = true) (based : allowed registry.base)
    (values : ∀ value ∈ registry.values, isIdentifier value = true)
    (valued : ∀ value ∈ registry.values, allowed value) :
    ∀ line ∈ registry.lines, MentionsOnly allowed .code line := by
  simp only [Registry.lines, singletonLines, listLines, tableLines, Registry.key, padTo,
    List.forall_mem_append, List.forall_mem_map, List.forall_mem_singleton, toString,
    String.append_assoc]
  -- Every line is read from the left: literals are checked, names are known.
  simp +contextual
    (disch := first | assumption | exact values _ ‹_› | exact leads_literal (by decide) | decide)
    only
    [mentionsOnly_code known, mentionsOnly_opening known, mentionsOnly_last known,
      mentionsOnly_name_append, mentionsOnly_name_separator, mentionsOnly_name_spaces,
      mentionsOnly_spaces, mentionsOnly_quoted, typed, based, valued, implies_true, and_self]

end Source

namespace Model

variable {model : Model}

theorem mem_scope_of_declares {name : String} (declared : name ∈ model.file.declares) :
    name ∈ model.scope :=
  List.mem_append_right _ declared

theorem commonWords_subset_scope (model : Model) :
    ∀ word ∈ commonWords, word ∈ model.scope := by
  simp only [commonWords, fixedWords, List.forall_mem_append]
  refine ⟨⟨⟨⟨?_, ?_⟩, ?_⟩, ?_⟩, ?_⟩
  · simp +contextual [scope, suppliedNames]
  · simp +contextual [scope, suppliedNames]
  · simp +contextual [scope, suppliedNames]
  · simp +contextual [scope]
  · intro word member
    apply mem_scope_of_declares
    rw [declares_file]
    simp only [List.mem_append]
    exact .inl (.inl (.inl (.inr member)))

theorem names_mem_scope (model : Model) :
    model.names.interface ∈ model.scope ∧ model.names.base ∈ model.scope ∧
      model.names.sealMethod ∈ model.scope ∧ model.names.invalidNameError ∈ model.scope ∧
        model.names.invalidNameConstructor ∈ model.scope := by
  have method : model.names.sealMethod ∈ model.scope := by
    simp [scope, suppliedNames, names]
  refine ⟨mem_scope_of_declares ?_, mem_scope_of_declares ?_, method,
    mem_scope_of_declares ?_, mem_scope_of_declares ?_⟩ <;> simp [declares_file]

theorem value_mem_scope {value : String} (member : value ∈ model.values) :
    value ∈ model.scope := by
  apply mem_scope_of_declares
  simp [declares_file, member]

theorem fallback_mem_scope {value : String} (undefined : model.undefined = some value) :
    "OfOrUndefined" ∈ model.scope := by
  apply mem_scope_of_declares
  simp [declares_file, undefined]

theorem marshallable_mem_scope (json : model.json.isSome = true) :
    model.names.marshallable ∈ model.scope := by
  apply mem_scope_of_declares
  simp [declares_file, json]

theorem json_mem_scope (json : model.json.isSome = true) : "json" ∈ model.scope := by
  have imported : "json" ∈ model.imports.map packageName := by
    rw [imports_eq, if_pos json]
    split <;> decide
  simp [scope, imported]

theorem fmt_mem_scope (json : model.json.isSome = true)
    (strict : model.decodeFallback = none) : "fmt" ∈ model.scope := by
  have imported : "fmt" ∈ model.imports.map packageName := by
    rw [imports_eq, if_pos json, strict]
    decide
  simp [scope, imported]

/-! What each group of declarations mentions. -/

/-- Every line of a declaration stays within the scope of the file. -/
def Covers (model : Model) (declaration : Declaration) : Prop :=
  ∀ line ∈ declaration.lines, MentionsOnly (· ∈ model.scope) .code line

theorem isIdentifier_sealMethod (sound : model.Sound) :
    isIdentifier model.names.sealMethod = true :=
  isIdentifier_append (by decide) fun _ member => isPart_of_mem sound.typeName_identifier member

theorem covers_baseDeclarations (sound : model.Sound) :
    ∀ declaration ∈ model.baseDeclarations, model.Covers declaration := by
  obtain ⟨interface, base, marshallable, _, _⟩ := isIdentifier_names sound
  have sealMethod := isIdentifier_sealMethod sound
  have known := commonWords_subset_scope model
  obtain ⟨typed, based, sealed, _, _⟩ := names_mem_scope model
  have registered : ∀ line ∈ model.registry.lines, MentionsOnly (· ∈ model.scope) .code line :=
    Registry.mentionsOnly_lines known interface typed base based
      (fun _ member => sound.value_identifier member) fun _ member => value_mem_scope member
  simp (disch := first | assumption | exact leads_literal (by decide) | decide) only
    [baseDeclarations, has_jsonCodec, List.forall_mem_cons, Covers, Declaration.lines,
      List.cons_append, List.nil_append, mentionsOnly_braced_nil, mentionsOnly_braced_cons,
      toString, String.append_assoc, mentionsOnly_code known, mentionsOnly_last known,
      mentionsOnly_name_append, mentionsOnly_name_separator, known, typed, based, sealed, true_and,
      and_true, List.not_mem_nil, false_implies, implies_true]
  refine ⟨?_, registered⟩
  split
  · rename_i json
    have adapted := marshallable_mem_scope json
    simp (disch := first | assumption | exact leads_literal (by decide) | decide) only
      [List.forall_mem_singleton, mentionsOnly_code known, mentionsOnly_name, adapted]
  · exact List.forall_mem_nil _

theorem covers_strictLookup (sound : model.Sound) : model.Covers model.strictLookup := by
  obtain ⟨interface, _, _, _, constructor⟩ := isIdentifier_names sound
  have known := commonWords_subset_scope model
  obtain ⟨typed, _, _, _, constructed⟩ := names_mem_scope model
  simp (disch := first | assumption | exact leads_literal (by decide) | decide) only
    [Covers, strictLookup, Declaration.lines, mentionsOnly_braced_cons, List.forall_mem_cons,
      toString, String.append_assoc, mentionsOnly_code known, mentionsOnly_last known,
      mentionsOnly_name_append, mentionsOnly_name_separator, known, typed, constructed, true_and,
      List.not_mem_nil, false_implies, implies_true]

theorem covers_fallbackLookup (sound : model.Sound) {value : String}
    (undefined : model.undefined = some value) :
    model.Covers (model.fallbackLookup value) := by
  obtain ⟨interface, _, _, _, _⟩ := isIdentifier_names sound
  have known := commonWords_subset_scope model
  obtain ⟨typed, _, _, _, _⟩ := names_mem_scope model
  have function := fallback_mem_scope undefined
  have identifier := sound.undefined_identifier undefined
  have declared := value_mem_scope (sound.undefined_declared value undefined)
  simp (disch := first | assumption | exact leads_literal (by decide) | decide) only
    [Covers, fallbackLookup, Declaration.lines, mentionsOnly_braced_cons, List.forall_mem_cons,
      toString, String.append_assoc, mentionsOnly_code known, mentionsOnly_last known,
      mentionsOnly_name_append, mentionsOnly_name_separator, mentionsOnly_name, typed, function,
      declared, true_and, List.not_mem_nil, false_implies, implies_true]

theorem covers_errorDeclarations (sound : model.Sound) :
    ∀ declaration ∈ model.errorDeclarations, model.Covers declaration := by
  obtain ⟨_, _, _, invalidNameError, constructor⟩ := isIdentifier_names sound
  have typeName := sound.typeName_identifier
  have known := commonWords_subset_scope model
  obtain ⟨_, _, _, failed, constructed⟩ := names_mem_scope model
  simp (disch := first | assumption | exact leads_literal (by decide) | decide) only
    [errorDeclarations, List.forall_mem_cons, Covers, Declaration.lines, mentionsOnly_braced_cons,
      toString, String.append_assoc, mentionsOnly_code known, mentionsOnly_opening known,
      mentionsOnly_last known, mentionsOnly_quoted, mentionsOnly_name_append,
      mentionsOnly_name_separator, known, failed, constructed, and_true, List.not_mem_nil,
      false_implies, implies_true]

/-- Decoding refers to the package that formats errors only where it can fail. -/
theorem mentionsOnly_decodeBody (sound : model.Sound) (json : model.json.isSome = true) :
    ∀ line ∈ model.decodeBody, MentionsOnly (· ∈ model.scope) .code line := by
  have known := commonWords_subset_scope model
  have package := json_mem_scope json
  unfold decodeBody
  split
  · rename_i value fallback
    have undefined := undefined_of_decodeFallback fallback
    have function := fallback_mem_scope undefined
    have identifier := sound.undefined_identifier undefined
    have declared := value_mem_scope (sound.undefined_declared value undefined)
    have known : ∀ word ∈ "json" :: "OfOrUndefined" :: commonWords, word ∈ model.scope := by
      simp only [List.forall_mem_cons]
      exact ⟨package, function, known⟩
    simp (disch := first | assumption | exact leads_literal (by decide) | decide) only
      [fallbackDecodeBody, List.forall_mem_cons, toString, mentionsOnly_code known,
        mentionsOnly_last known, mentionsOnly_name, declared, true_and, List.not_mem_nil,
        false_implies, implies_true]
  · rename_i strict
    have formatting := fmt_mem_scope json strict
    have typeName := sound.typeName_identifier
    have known : ∀ word ∈ "json" :: "fmt" :: commonWords, word ∈ model.scope := by
      simp only [List.forall_mem_cons]
      exact ⟨package, formatting, known⟩
    simp (disch := first | assumption | exact leads_literal (by decide) | decide) only
      [strictDecodeBody, List.forall_mem_cons, toString, String.append_assoc,
        mentionsOnly_code known, mentionsOnly_opening known, mentionsOnly_last known,
        mentionsOnly_quoted, true_and, List.not_mem_nil, false_implies, implies_true]

theorem covers_jsonDeclarations (sound : model.Sound) (json : model.json.isSome = true) :
    ∀ declaration ∈ model.jsonDeclarations, model.Covers declaration := by
  obtain ⟨interface, base, marshallable, _, _⟩ := isIdentifier_names sound
  obtain ⟨typed, based, _, _, _⟩ := names_mem_scope model
  have adapted := marshallable_mem_scope json
  have known : ∀ word ∈ "json" :: commonWords, word ∈ model.scope :=
    List.forall_mem_cons.mpr ⟨json_mem_scope json, commonWords_subset_scope model⟩
  obtain ⟨first, others, body⟩ := exists_decodeBody_eq_cons model
  have decoded := mentionsOnly_decodeBody sound json
  rw [body] at decoded
  simp (disch := first | assumption | exact leads_literal (by decide) | decide) only
    [jsonDeclarations, List.forall_mem_cons, Covers, Declaration.lines, body,
      mentionsOnly_braced_cons, toString, String.append_assoc, mentionsOnly_code known,
      mentionsOnly_last known, mentionsOnly_name_append, mentionsOnly_name_separator,
      mentionsOnly_name, typed, based, adapted, known, true_and, List.not_mem_nil, false_implies,
      implies_true, and_true]
  exact List.forall_mem_cons.mp decoded

end Model

end SealedEnum
