import SealedEnum.Proofs.Generation.Rendering
import SealedEnum.Proofs.Source.Recovery

namespace SealedEnum

open SealedEnum.Source

/-! Which specifications a file is up to date for. -/

def Spec.decodePolicy? (spec : Spec) : Option DecodePolicy :=
  (Model.ofSpec spec none).json

/-- Nothing that shows in a file tells the specifications and their licenses apart. -/
structure Spec.Agree (first second : Spec) (firstLicense secondLicense : Option String) :
    Prop where
  package : first.package = second.package
  typeName : first.typeName = second.typeName
  values : first.values = second.values
  undefined : first.undefined? = second.undefined?
  generate : first.json.generate = second.json.generate
  policy : first.decodePolicy? = second.decodePolicy?
  comment : firstLicense.bind commentBlock = secondLicense.bind commentBlock

variable {first second : Spec} {firstLicense secondLicense : Option String}

theorem essence_eq_iff :
    Essence.ofModel (.ofSpec first firstLicense) = Essence.ofModel (.ofSpec second secondLicense) ↔
      first.Agree second firstLicense secondLicense := by
  rw [Essence.mk.injEq]
  constructor
  · rintro ⟨comment, package, typeName, values, undefined, policy⟩
    have generate : (Model.ofSpec first firstLicense).json.isSome =
        (Model.ofSpec second secondLicense).json.isSome := congrArg Option.isSome policy
    rw [Model.ofSpec_json_isSome, Model.ofSpec_json_isSome] at generate
    exact ⟨package, typeName, values, undefined, generate, policy, comment⟩
  · intro agree
    exact ⟨agree.comment, agree.package, agree.typeName, agree.values, agree.undefined,
      agree.policy⟩

theorem render_eq_iff (firstValid : first.Valid) (secondValid : second.Valid) :
    (Model.ofSpec first firstLicense).render = (Model.ofSpec second secondLicense).render ↔
      first.Agree second firstLicense secondLicense := by
  rw [← essence_eq_iff]
  constructor
  · intro same
    have recovered := recover?_render firstValid firstLicense
    rw [same, recover?_render secondValid secondLicense] at recovered
    exact (Option.some.inj recovered).symm
  · exact render_eq_of_essence

namespace Session

def status (session : Session) (path : Path) (content : ByteArray) :
    Except Failure CheckStatus :=
  match session.disk.read session.directory path with
  | .ok existing => .ok (if existing.data = content.data then .upToDate else .stale)
  | .error .notFound => .ok .missing
  | .error error => .error (.io error)

theorem outcome_checkFile (session : Session) (path : Path) (content : ByteArray) :
    session.outcome (checkFile path content) = (session.status path content, session) := by
  have read : session.outcome (Host.read path) =
      (.ok (session.disk.read session.directory path), session) := rfl
  rw [checkFile, outcome_bind_ok read, status]
  cases session.disk.read session.directory path with
  | error error => cases error <;> rfl
  | ok existing =>
      dsimp only
      split <;> rfl

theorem status_eq_upToDate_iff {session : Session} {path : Path} {content : ByteArray} :
    session.status path content = .ok .upToDate ↔
      session.disk.read session.directory path = .ok content := by
  unfold status
  cases session.disk.read session.directory path with
  | error error => cases error <;> simp
  | ok existing =>
      dsimp only
      split
      · rename_i same
        simp [ByteArray.ext same]
      · rename_i other
        simp only [Except.ok.injEq, reduceCtorEq, false_iff]
        rintro rfl
        exact other rfl

theorem outcome_check (session : Session) (spec : Spec) :
    session.outcome (check spec) =
      ((session.rendering spec).bind fun file => session.status file.path file.bytes,
        session) := by
  have rendered := outcome_renderFile session spec
  unfold check
  cases found : session.rendering spec with
  | error failure =>
      rw [found] at rendered
      exact outcome_bind_error rendered _
  | ok file =>
      rw [found] at rendered
      rw [outcome_bind_ok rendered]
      exact outcome_checkFile session file.path file.bytes

def checkedFile (session : Session) (file : RenderedFile) : Except Failure CheckedFile :=
  (session.status file.path file.bytes).map fun status => ⟨file.path, file.typeName, status⟩

theorem outcome_checkRendered (session : Session) (files : List RenderedFile) :
    ∃ events, session.outcome (checkRendered files) =
      (files.mapM session.checkedFile, { session with events }) := by
  induction files generalizing session with
  | nil => exact ⟨session.events, rfl⟩
  | cons file rest ih =>
      have checks := outcome_checkFile session file.path file.bytes
      rw [checkRendered, outcome_bind _ checks, List.mapM_cons, checkedFile]
      cases session.status file.path file.bytes with
      | error failure => exact ⟨session.events, rfl⟩
      | ok status =>
          have others : ∀ logged, ∃ events,
              Session.outcome { session with events := logged } (do
                return CheckedFile.mk file.path file.typeName status :: (← checkRendered rest)) =
              (do return ⟨file.path, file.typeName, status⟩ :: (← rest.mapM session.checkedFile),
                { session with events }) := by
            intro logged
            obtain ⟨events, checks⟩ := ih { session with events := logged }
            have same : Session.checkedFile { session with events := logged } =
              session.checkedFile := rfl
            refine ⟨events, ?_⟩
            rw [outcome_bind _ checks, same]
            cases rest.mapM session.checkedFile <;> rfl
          dsimp only
          split
          · exact others _
          · exact others session.events

/-- What a check of many files finds; nothing is read unless everything renders. -/
def checked (session : Session) (specs : List Spec) : Except Failure (List CheckedFile) :=
  (specs.mapM session.rendering).bind fun files => files.mapM session.checkedFile

theorem outcome_checkAll (session : Session) (specs : List Spec) :
    ∃ events, session.outcome (checkAll specs) =
      (session.checked specs, { session with events }) := by
  unfold checkAll
  rw [outcome_bind _ (outcome_renderAll session specs), checked]
  cases specs.mapM session.rendering with
  | error failure => exact ⟨session.events, rfl⟩
  | ok files => exact outcome_checkRendered session files

theorem check_upToDate_iff {session : Session} {spec : Spec} (accepted : spec.validate = .ok ()) :
    (session.outcome (check spec)).1 = .ok .upToDate ↔
      ∃ license, session.license spec.licenseFile = .ok license ∧
        session.disk.read session.directory spec.destination =
          .ok (Model.ofSpec spec license).render.toUTF8 := by
  rw [outcome_check, rendering, accepted]
  cases session.license spec.licenseFile with
  | error failure => simp [Except.bind]
  | ok license =>
      simp only [Except.bind, Except.ok.injEq, exists_eq_left']
      exact status_eq_upToDate_iff

end Session

/-- Files agree exactly where their specifications do, so that a file written for one specification
is up to date for those alone that mean the same. -/
theorem render_eq_iff_agree (first second : Spec) (firstLicense secondLicense : Option String)
    (firstAccepted : first.validate = .ok ()) (secondAccepted : second.validate = .ok ()) :
    ((Model.ofSpec first firstLicense).render = (Model.ofSpec second secondLicense).render ↔
      first.Agree second firstLicense secondLicense) ∧
    ∀ session : Session,
      session.disk.read session.directory second.destination =
          .ok (Model.ofSpec first firstLicense).render.toUTF8 →
        ((session.outcome (check second)).1 = .ok .upToDate ↔
          ∃ loaded, session.outcome (loadLicense second.licenseFile) = (.ok loaded, session) ∧
            first.Agree second firstLicense loaded) := by
  have firstValid := Spec.validate_eq_ok_iff.mp firstAccepted
  have secondValid := Spec.validate_eq_ok_iff.mp secondAccepted
  refine ⟨render_eq_iff firstValid secondValid, ?_⟩
  intro session holds
  rw [Session.check_upToDate_iff secondAccepted, holds]
  refine exists_congr fun loaded => ?_
  rw [Session.outcome_loadLicense, Prod.mk.injEq, and_iff_left rfl, ← render_eq_iff firstValid
    secondValid, Except.ok.injEq, String.toUTF8_eq_toByteArray, String.toUTF8_eq_toByteArray,
    String.toByteArray_inj]

def bareSpec : Spec where
  destination := ⟨"color.go"⟩
  licenseFile := none
  package := "colors"
  typeName := "Color"
  values := ["Red", "Green"]
  undefinedValue := none
  json := ⟨false, false⟩

def emptiedSpec : Spec :=
  { bareSpec with undefinedValue := some "" }

def turnedSpec : Spec :=
  { bareSpec with values := ["Green", "Red"] }

def bareSession : Session where
  disk := ⟨[(["color.go"], .file (Model.ofSpec bareSpec none).render.toUTF8)]⟩
  directory := []
  environment := ⟨[]⟩

/-- An empty undefined value is none, and a blank license makes no comment. -/
theorem render_bareSpec :
    (Model.ofSpec bareSpec none).render = (Model.ofSpec emptiedSpec (some " \n")).render ∧
      (Model.ofSpec bareSpec none).render ≠ (Model.ofSpec turnedSpec none).render ∧
        (bareSession.outcome (check emptiedSpec)).1 = .ok .upToDate ∧
          (bareSession.outcome (check turnedSpec)).1 ≠ .ok .upToDate := by
  have emptied := render_eq_iff_agree bareSpec emptiedSpec none (some " \n") rfl rfl
  have turned := render_eq_iff_agree bareSpec turnedSpec none none rfl rfl
  have holds : bareSession.disk.read bareSession.directory ⟨"color.go"⟩ =
      .ok (Model.ofSpec bareSpec none).render.toUTF8 := rfl
  refine ⟨emptied.1.mpr ⟨rfl, rfl, rfl, rfl, rfl, rfl, rfl⟩, ?_, ?_, ?_⟩
  · intro same
    exact absurd (turned.1.mp same).values (by decide)
  · exact (emptied.2 bareSession holds).mpr ⟨none, rfl, rfl, rfl, rfl, rfl, rfl, rfl, rfl⟩
  · intro fresh
    obtain ⟨_, _, agree⟩ := (turned.2 bareSession holds).mp fresh
    exact absurd agree.values (by decide)

end SealedEnum
