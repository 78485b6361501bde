import SealedEnum.Proofs.Source.LookupTable

namespace SealedEnum.Source

open SealedEnum.Identifier

/-! The decoder of a rendered file, and the ways in which it can end. -/

/-- What a line of a decoder does, as far as its receiver and its result go. -/
inductive Statement where
  | condition
  | close
  | store (value : String)
  | result (value : String)
  | other
  deriving DecidableEq

def Statement.ofLine (line : String) : Statement :=
  let text := line.toList.dropWhile (· = '\t')
  match after? "return " text, after? "m.en = " text with
  | some value, _ => .result (String.ofList value)
  | none, some value => .store (String.ofList value)
  | none, none =>
      if text = ['\x7d'] then .close
      else if (after? "if " text).isSome then .condition else .other

/-- What was last stored in the receiver, and the result. -/
structure Ending where
  stored : Option String
  returned : Option String
  deriving DecidableEq

/-- The endings of all runs, each condition being met or not. Where it is not, the statements up to
the next closing brace are skipped. -/
def endingsFrom (stored : Option String) : Bool → List Statement → List Ending
  | _, [] => [⟨stored, none⟩]
  | true, .close :: rest => endingsFrom stored false rest
  | true, _ :: rest => endingsFrom stored true rest
  | false, .condition :: rest => endingsFrom stored false rest ++ endingsFrom stored true rest
  | false, .store value :: rest => endingsFrom (some value) false rest
  | false, .result value :: _ => [⟨stored, some value⟩]
  | false, _ :: rest => endingsFrom stored false rest

def endings (body : List String) : List Ending :=
  endingsFrom none false (body.map Statement.ofLine)

/-- The body of a method that decodes into the receiver it points to. -/
def decoder? (block : Block) : Option (List String) := do
  let (_, pointer) ← name? (← after? "func (" block.opening.toList)
  let (_, rest) ← name? (← after? " *" pointer)
  if rest = ") UnmarshalJSON(jsonBytes []byte) error \x7b".toList then some block.body else none

/-- The decoders of a model, as they are found in a file. A decoder that falls back succeeds
whatever it is given, with the undefined value or what the lookup answers that falls back to it. -/
structure DecodedBy (model : Model) (found : List Block) : Prop where
  absent : found.filterMap decoder? = [] ↔ model.has .jsonCodec = false
  strict : found.filterMap decoder? = [model.strictDecodeBody.map Declaration.indent] ↔
    model.has .jsonCodec = true ∧ model.has .nilToUndefined = false
  fallback : model.has .nilToUndefined = true →
    ∃ body undefined, found.filterMap decoder? = [body] ∧
      model.undefined = some undefined ∧ fallback? found = some undefined ∧
      ⟨some undefined, some "nil"⟩ ∈ endings body ∧
      ∀ ending ∈ endings body, ending.returned = some "nil" ∧
        (ending.stored = some undefined ∨ ending.stored = some "OfOrUndefined(name)")

/-! The two bodies. -/

theorem ofLine_fallbackDecodeBody (undefined : String) :
    ((Model.fallbackDecodeBody undefined).map Declaration.indent).map Statement.ofLine =
      [.condition, .store undefined, .result "nil", .close, .other, .other,
        .condition, .store undefined, .result "nil", .close, .other,
        .store "OfOrUndefined(name)", .result "nil"] := by
  simp [Model.fallbackDecodeBody, Declaration.indent, Statement.ofLine, after?, toString,
    List.isPrefixOf?]

theorem ofLine_strictDecodeBody (model : Model) :
    ∃ failure, failure ≠ "nil" ∧
      (model.strictDecodeBody.map Declaration.indent).map Statement.ofLine =
        [.condition, .store "nil", .result "nil", .close, .other, .other,
          .condition, .result failure, .close, .other, .other,
          .condition, .result failure, .close, .store "value", .result "nil"] := by
  refine ⟨s!"fmt.Errorf(\"could not unmarshal {model.typeName} from JSON\\n%w\", err)", ?_, ?_⟩
  · simp [toString, ← String.toList_inj]
  · simp [Model.strictDecodeBody, Declaration.indent, Statement.ofLine, after?, toString,
      List.isPrefixOf?, ← String.toList_inj]

theorem endings_fallbackDecodeBody (undefined : String) :
    endings ((Model.fallbackDecodeBody undefined).map Declaration.indent) =
      [⟨some undefined, some "nil"⟩, ⟨some undefined, some "nil"⟩,
        ⟨some "OfOrUndefined(name)", some "nil"⟩] := by
  rw [endings, ofLine_fallbackDecodeBody]
  rfl

/-- Unlike the other, the strict body can fail. -/
theorem exists_failure_strictDecodeBody (model : Model) :
    ∃ ending ∈ endings (model.strictDecodeBody.map Declaration.indent),
      ending.returned ≠ some "nil" := by
  obtain ⟨failure, other, read⟩ := ofLine_strictDecodeBody model
  refine ⟨⟨none, some failure⟩, ?_, by simpa using other⟩
  rw [endings, read]
  simp [endingsFrom]

theorem fallbackDecodeBody_ne_strictDecodeBody (model : Model) (undefined : String) :
    (Model.fallbackDecodeBody undefined).map Declaration.indent ≠
      model.strictDecodeBody.map Declaration.indent := by
  intro same
  obtain ⟨ending, reached, failed⟩ := exists_failure_strictDecodeBody model
  rw [← same, endings_fallbackDecodeBody] at reached
  simp only [List.mem_cons, List.not_mem_nil, or_false] at reached
  rcases reached with rfl | rfl | rfl <;> exact failed rfl

/-! Finding the decoder. -/

theorem decoder?_eq_none {block : Block} (other : after? "func (" block.opening.toList = none) :
    decoder? block = none := by
  rw [decoder?, other]
  rfl

/-- Methods take their receiver by value. -/
def Declaration.ByValue : Declaration → Prop
  | .method receiver _ _ _ =>
      isIdentifier receiver.name = true ∧ isIdentifier receiver.type = true
  | _ => True

theorem Declaration.decoder?_block {declaration : Declaration} (named : declaration.Named)
    (byValue : declaration.ByValue) : decoder? declaration.block = none := by
  cases declaration with
  | interface name methods | record name methods =>
      obtain ⟨ending, spelled⟩ := opening_bracedBlock _ methods
      apply decoder?_eq_none
      rw [Declaration.block, spelled]
      simp [after?, List.isPrefixOf?, toString]
  | valueRegistry registry =>
      apply decoder?_eq_none
      simp [Declaration.block, Registry.block, after?, List.isPrefixOf?]
  | function name signature body =>
      obtain ⟨c, rest, first, _⟩ := isIdentifier_iff.mp named.1
      obtain ⟨ending, spelled⟩ := opening_bracedBlock s!"func {name}{signature}" body
      have other : c ≠ '(' := first_ne_of_isIdentifier named.1 first (by decide)
      apply decoder?_eq_none
      rw [Declaration.block, spelled]
      simp [after?, List.isPrefixOf?, toString, first, Ne.symm other]
  | method receiver name signature body =>
      obtain ⟨known, typed⟩ := byValue
      obtain ⟨c, rest, first, _⟩ := isIdentifier_iff.mp typed
      obtain ⟨ending, spelled⟩ := opening_bracedBlock
        s!"func ({receiver.name} {receiver.type}) {name}{signature}" body
      have whole : (Declaration.method receiver name signature body).block.opening.toList =
          "func (".toList ++ (receiver.name.toList ++ ' ' :: (receiver.type.toList ++
            (s!") {name}{signature}".toList ++ ' ' :: ending))) := by
        simpa [Declaration.block, toString] using spelled
      have other : c ≠ '*' := first_ne_of_isIdentifier typed first (by decide)
      have direct : ∀ behind, after? " *" (' ' :: (receiver.type.toList ++ behind)) = none := by
        intro behind
        simp [after?, List.isPrefixOf?, first, Ne.symm other]
      have receiving : ∀ behind, name? (receiver.name.toList ++ ' ' :: behind) =
          some (receiver.name, ' ' :: behind) :=
        fun behind => name?_append known (endsName_cons (c := ' ') (by decide) behind)
      simp only [decoder?, whole, after?_append, receiving, direct, Option.bind_eq_bind,
        Option.bind_some, Option.bind_none]

theorem filterMap_decoder?_eq_nil {declarations : List Declaration}
    (named : ∀ declaration ∈ declarations, declaration.Named)
    (byValue : ∀ declaration ∈ declarations, declaration.ByValue) :
    (declarations.map Declaration.block).filterMap decoder? = [] := by
  rw [List.filterMap_map]
  exact List.filterMap_eq_nil_iff.mpr fun declaration member =>
    Declaration.decoder?_block (named declaration member) (byValue declaration member)

section Rendered

variable {model : Model}

theorem decoder?_pointer (sound : model.Sound) :
    decoder? (Declaration.method ⟨"m", "*" ++ model.names.marshallable⟩ "UnmarshalJSON"
      "(jsonBytes []byte) error" model.decodeBody).block =
        some (model.decodeBody.map Declaration.indent) := by
  obtain ⟨first, others, body⟩ := model.exists_decodeBody_eq_cons
  have spelled : (Declaration.method ⟨"m", "*" ++ model.names.marshallable⟩ "UnmarshalJSON"
      "(jsonBytes []byte) error" model.decodeBody).block.opening.toList =
        "func (".toList ++ ("m".toList ++ (" *".toList ++ (model.names.marshallable.toList ++
          ") UnmarshalJSON(jsonBytes []byte) error \x7b".toList))) := by
    simp [Declaration.block, bracedBlock, body, toString]
  have receiver : ∀ rest, name? ("m".toList ++ (" *".toList ++ rest)) =
      some ("m", " *".toList ++ rest) :=
    fun rest => name?_append (by decide) (endsName_text (c := ' ') (by simp) (by decide) rest)
  have type : name? (model.names.marshallable.toList ++
      ") UnmarshalJSON(jsonBytes []byte) error \x7b".toList) =
        some (model.names.marshallable, ") UnmarshalJSON(jsonBytes []byte) error \x7b".toList) :=
    name?_append (isIdentifier_names sound).2.2.1
      (endsName_cons (c := ')') (by decide) " UnmarshalJSON(jsonBytes []byte) error \x7b".toList)
  simp only [decoder?, spelled, after?_append, receiver, type, Option.bind_eq_bind,
    Option.bind_some, ↓reduceIte]
  simp [Declaration.block, bracedBlock, body]

theorem filterMap_decoder?_jsonDeclarations (sound : model.Sound) :
    (model.jsonDeclarations.map Declaration.block).filterMap decoder? =
      [model.decodeBody.map Declaration.indent] := by
  obtain ⟨_, base, marshallable, _⟩ := isIdentifier_names sound
  have letters : isIdentifier "m" = true ∧ isIdentifier "b" = true := by decide
  have record : ∀ fields, decoder? (Declaration.record model.names.marshallable fields).block =
      none :=
    fun _ => Declaration.decoder?_block marshallable trivial
  have onRecord : ∀ name signature body, decoder? (Declaration.method
      ⟨"m", model.names.marshallable⟩ name signature body).block = none :=
    fun _ _ _ => Declaration.decoder?_block trivial ⟨letters.1, marshallable⟩
  have onBase : ∀ name signature body, decoder? (Declaration.method
      ⟨"b", model.names.base⟩ name signature body).block = none :=
    fun _ _ _ => Declaration.decoder?_block trivial ⟨letters.2, base⟩
  simp only [Model.jsonDeclarations, List.map_cons, List.map_nil, List.filterMap_cons, record,
    onRecord, onBase, decoder?_pointer sound, List.filterMap_nil]

theorem filterMap_decoder?_importBlocks (imports : List String) :
    (importBlocks imports).filterMap decoder? = [] := by
  unfold importBlocks
  split
  · rfl
  · exact List.filterMap_cons_none (decoder?_eq_none (by simp [after?, List.isPrefixOf?]))

/-- A file has one decoder if its model asks for JSON, and none otherwise. -/
theorem filterMap_decoder?_render (sound : model.Sound) :
    (blocks (linesOf model.render)).filterMap decoder? =
      if model.has .jsonCodec then [model.decodeBody.map Declaration.indent] else [] := by
  obtain ⟨_, base, _, invalidNameError, _⟩ := isIdentifier_names sound
  have named := named_of_mem_declarations sound
  simp only [Model.declarations, List.forall_mem_append] at named
  obtain ⟨⟨⟨⟨namedBase, namedLookup⟩, namedFallback⟩, _⟩, namedErrors⟩ := named
  have package : [⟨s!"package {model.package}", []⟩].filterMap decoder? = [] :=
    List.filterMap_cons_none (decoder?_eq_none (by simp [after?, List.isPrefixOf?, toString]))
  have declarations := filterMap_decoder?_eq_nil namedBase (by
    simp only [Model.baseDeclarations, List.forall_mem_cons, Declaration.ByValue]
    exact ⟨trivial, trivial, ⟨by decide, base⟩, ⟨by decide, base⟩, trivial, trivial, by simp⟩)
  have lookup := filterMap_decoder?_eq_nil namedLookup (List.forall_mem_singleton.mpr trivial)
  have fallback := filterMap_decoder?_eq_nil namedFallback
    (List.forall_mem_map.mpr fun _ _ => trivial)
  have errors := filterMap_decoder?_eq_nil namedErrors (by
    simp only [Model.errorDeclarations, List.forall_mem_cons, Declaration.ByValue]
    exact ⟨trivial, ⟨by decide, invalidNameError⟩, ⟨by decide, invalidNameError⟩, trivial,
      by simp⟩)
  simp only [blocks_render sound, Model.declarations, List.map_append, List.filterMap_append,
    package, filterMap_decoder?_importBlocks, declarations, lookup, fallback, errors]
  split
  · simp [filterMap_decoder?_jsonDeclarations sound]
  · simp

end Rendered

theorem decodedBy_render {spec : Spec} (valid : spec.Valid) (license : Option String) :
    DecodedBy (Model.ofSpec spec license)
      (blocks (linesOf (Model.ofSpec spec license).render)) := by
  have found := filterMap_decoder?_render (valid.sound license)
  cases asked : (Model.ofSpec spec license).has .nilToUndefined with
  | false =>
      rw [Model.decodeBody_of_strict asked] at found
      refine ⟨?_, ?_, ?_⟩
      · simp [found]
      · rw [found, asked]
        cases (Model.ofSpec spec license).has .jsonCodec <;> simp
      · intro other
        exact absurd (asked.symm.trans other) Bool.false_ne_true
  | true =>
      obtain ⟨undefined, known, body⟩ := Model.exists_decodeBody_of_nilToUndefined asked
      have json := (Model.has_others_of_nilToUndefined asked).2
      rw [if_pos json, body] at found
      have fallback := (fallback?_render valid license).trans known
      have ends := endings_fallbackDecodeBody undefined
      refine ⟨?_, ?_, ?_⟩
      · simp [found, json]
      · simp [found, asked, fallbackDecodeBody_ne_strictDecodeBody]
      · intro _
        refine ⟨_, undefined, found, known, fallback, ?_, ?_⟩
        · simp [ends]
        · simp [ends]

/-! A specification and its model. -/

/-- The model of an accepted specification, its file and the decoder in it follow the same
options, and the shape of the model says which. An empty undefined value is no option at all. -/
theorem options_agree_of_valid (spec : Spec) (license : Option String)
    (accepted : spec.validate = .ok ()) :
    ∃ model, Model.build spec license = .ok model ∧ model.Reflects spec ∧
      (∀ other otherLicense otherModel, Model.build other otherLicense = .ok otherModel →
        (model.shape = otherModel.shape ↔
          spec.undefined?.isSome = other.undefined?.isSome ∧
            spec.json.generate = other.json.generate ∧
            spec.json.nilToUndefined = other.json.nilToUndefined)) ∧
      DecodedBy model (blocks (linesOf model.render)) ∧
      ∀ unset : Spec, unset.undefinedValue = none →
        let empty := { unset with undefinedValue := some "" }
        empty.validate = unset.validate ∧
          ∀ license, Model.build empty license = Model.build unset license ∧
            (Model.ofSpec empty license).render = (Model.ofSpec unset license).render := by
  have valid := Spec.validate_eq_ok_iff.mp accepted
  have reflects := Model.reflects_ofSpec valid license
  refine ⟨Model.ofSpec spec license, ?_, reflects, ?_, decodedBy_render valid license, ?_⟩
  · rw [Model.build, accepted]
  · intro other otherLicense otherModel built
    obtain ⟨otherValid, rfl⟩ := Model.build_eq_ok_iff.mp built
    exact reflects.shape_eq_iff (Model.reflects_ofSpec otherValid otherLicense)
  · intro unset absent empty
    have same : empty.undefined? = unset.undefined? := by
      simp [empty, Spec.undefined?, absent]
    refine ⟨Spec.validate_congr same, fun license => ?_⟩
    have model : Model.ofSpec empty license = Model.ofSpec unset license :=
      Model.ofSpec_congr same license
    exact ⟨by rw [Model.build, Model.build, Spec.validate_congr same, model], by rw [model]⟩

def flagSpec : Spec where
  destination := ⟨"flag.go"⟩
  licenseFile := none
  package := "flags"
  typeName := "Flag"
  values := ["Unset", "On", "Off"]
  undefinedValue := some "Unset"
  json := ⟨true, true⟩

theorem options_agree_flagSpec :
    flagSpec.validate = .ok () ∧
      ∃ model, Model.build flagSpec none = .ok model ∧ model.Reflects flagSpec ∧
        model.has .nilToUndefined = true ∧
        DecodedBy model (blocks (linesOf model.render)) := by
  have accepted : flagSpec.validate = .ok () := rfl
  obtain ⟨model, built, reflects, _, decoded, _⟩ :=
    options_agree_of_valid flagSpec none accepted
  exact ⟨accepted, model, built, reflects,
    reflects.nilToUndefined.mpr (reflects.policy.mpr rfl), decoded⟩

end SealedEnum.Source
