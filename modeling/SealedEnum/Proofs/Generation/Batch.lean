import Mathlib.Algebra.GroupWithZero.Nat
import Mathlib.Data.List.Forall2
import SealedEnum.Proofs.Host.Frame

namespace SealedEnum

/-! Generating many files: everything is rendered before anything is written, and the writes stop
at the first that fails. -/

section Traversal

variable {α β ε : Type} {compute : α → Except ε β}

theorem mapM_eq_ok_iff {inputs : List α} {results : List β} :
    inputs.mapM compute = .ok results ↔
      List.Forall₂ (fun input result => compute input = .ok result) inputs results := by
  induction inputs generalizing results with
  | nil =>
      rw [List.mapM_nil, List.forall₂_nil_left_iff]
      exact ⟨fun same => (Except.ok.inj same).symm, fun same => congrArg _ same.symm⟩
  | cons input rest ih =>
      rw [List.mapM_cons, List.forall₂_cons_left_iff]
      cases first : compute input with
      | error error => simp [bind, Except.bind]
      | ok result =>
          cases others : rest.mapM compute with
          | error error =>
              simp only [bind, Except.bind, reduceCtorEq, false_iff]
              rintro ⟨_, later, _, each, _⟩
              rw [ih.mpr each] at others
              contradiction
          | ok computed =>
              have each := ih.mp others
              simp only [bind, Except.bind, pure, Except.pure, Except.ok.injEq]
              constructor
              · rintro rfl
                exact ⟨result, computed, rfl, each, rfl⟩
              · rintro ⟨_, later, rfl, same, rfl⟩
                rw [ih.mpr same] at others
                rw [Except.ok.inj others]

theorem exists_of_mapM_eq_error {inputs : List α} {error : ε}
    (fails : inputs.mapM compute = .error error) :
    ∃ before input later, inputs = before ++ input :: later ∧
      (∀ earlier ∈ before, ∃ result, compute earlier = .ok result) ∧
        compute input = .error error := by
  induction inputs with
  | nil => contradiction
  | cons input rest ih =>
      rw [List.mapM_cons] at fails
      cases first : compute input with
      | error reason =>
          simp only [first, bind, Except.bind, Except.error.injEq] at fails
          subst reason
          exact ⟨[], input, rest, rfl, nofun, first⟩
      | ok result =>
          cases others : rest.mapM compute with
          | ok computed =>
              simp [first, others, bind, Except.bind, pure, Except.pure] at fails
          | error reason =>
              simp only [first, others, bind, Except.bind, Except.error.injEq] at fails
              subst reason
              obtain ⟨before, failing, later, rfl, succeed, fails⟩ := ih others
              refine ⟨input :: before, failing, later, rfl, ?_, fails⟩
              intro earlier member
              rcases List.mem_cons.mp member with rfl | inRest
              · exact ⟨result, first⟩
              · exact succeed earlier inRest

theorem exists_mapM_eq_ok_iff {inputs : List α} :
    (∃ results, inputs.mapM compute = .ok results) ↔
      ∀ input ∈ inputs, ∃ result, compute input = .ok result := by
  constructor
  · rintro ⟨results, computed⟩
    have each := mapM_eq_ok_iff.mp computed
    clear computed
    induction each with
    | nil => simp
    | cons first _ ih => exact List.forall_mem_cons.mpr ⟨⟨_, first⟩, ih⟩
  · intro each
    cases computed : inputs.mapM compute with
    | ok results => exact ⟨results, rfl⟩
    | error error =>
        obtain ⟨before, input, later, rfl, -, fails⟩ := exists_of_mapM_eq_error computed
        obtain ⟨result, succeeds⟩ := each input (by simp)
        rw [fails] at succeeds
        contradiction

end Traversal

namespace Disk

def replaceAll (directory : Place) (disk : Disk) (files : List RenderedFile) :
    Except Failure Disk :=
  files.foldlM (fun disk file => disk.replace directory file.path file.bytes) disk

theorem replaceAll_cons {disk changed : Disk} {directory : Place} {file : RenderedFile}
    (replaced : disk.replace directory file.path file.bytes = .ok changed)
    (rest : List RenderedFile) :
    disk.replaceAll directory (file :: rest) = changed.replaceAll directory rest := by
  rw [replaceAll, List.foldlM_cons, replaced]
  rfl

/-- Some files were written before one could not be. -/
structure StopsAfter (disk : Disk) (directory : Place) (files done : List RenderedFile)
    (failure : Failure) (middle : Disk) : Prop where
  written : disk.replaceAll directory done = .ok middle
  fails : ∃ file later, files = done ++ file :: later ∧
    middle.replace directory file.path file.bytes = .error failure

theorem stopsAfter_nil {disk : Disk} {directory : Place} {file : RenderedFile}
    {failure : Failure} (fails : disk.replace directory file.path file.bytes = .error failure)
    (rest : List RenderedFile) : disk.StopsAfter directory (file :: rest) [] failure disk :=
  ⟨rfl, file, rest, rfl, fails⟩

theorem StopsAfter.cons {disk changed middle : Disk} {directory : Place} {file : RenderedFile}
    {rest done : List RenderedFile} {failure : Failure}
    (replaced : disk.replace directory file.path file.bytes = .ok changed)
    (stops : changed.StopsAfter directory rest done failure middle) :
    disk.StopsAfter directory (file :: rest) (file :: done) failure middle where
  written := (replaceAll_cons replaced done).trans stops.written
  fails := by
    obtain ⟨failing, later, rfl, fails⟩ := stops.fails
    exact ⟨failing, later, rfl, fails⟩

end Disk

def RenderedFile.generated (file : RenderedFile) : GeneratedFile where
  path := file.path
  bytesWritten := file.bytes.size
  typeName := file.typeName
  shape := file.shape
  digest := Digest.ofBytes file.bytes

namespace Session

theorem outcome_writeRendered_ok {session : Session} {file : RenderedFile} {disk : Disk}
    (replaced : session.disk.replace session.directory file.path file.bytes = .ok disk) :
    ∃ events, session.outcome (writeRendered file) =
      (.ok file.generated, { session with disk, events }) := by
  have written := outcome_writeAtomically session file.path file.bytes
  rw [replaced] at written
  exact ⟨_, outcome_bind_ok written _⟩

theorem outcome_writeRendered_error {session : Session} {file : RenderedFile}
    {failure : Failure}
    (failed : session.disk.replace session.directory file.path file.bytes = .error failure) :
    session.outcome (writeRendered file) = (.error failure, session) := by
  have written := outcome_writeAtomically session file.path file.bytes
  rw [failed] at written
  exact outcome_bind_error written _

theorem outcome_writeAll (session : Session) (files : List RenderedFile) :
    (∃ disk events, session.disk.replaceAll session.directory files = .ok disk ∧
      session.outcome (writeAll files) =
        (.ok (files.map RenderedFile.generated), { session with disk, events })) ∨
    ∃ done failure middle events,
      session.disk.StopsAfter session.directory files done failure middle ∧
        session.outcome (writeAll files) =
          (.error failure, { session with disk := middle, events }) := by
  induction files generalizing session with
  | nil => exact .inl ⟨session.disk, session.events, rfl, rfl⟩
  | cons file rest ih =>
      cases first : session.disk.replace session.directory file.path file.bytes with
      | error failure =>
          refine .inr ⟨[], failure, session.disk, session.events,
            Disk.stopsAfter_nil first rest, ?_⟩
          exact outcome_bind_error (outcome_writeRendered_error first) _
      | ok changed =>
          obtain ⟨logged, written⟩ := outcome_writeRendered_ok first
          have start : session.outcome (writeAll (file :: rest)) = _ :=
            outcome_bind_ok written _
          rcases ih { session with disk := changed, events := logged } with
            ⟨disk, events, others, succeeds⟩ | ⟨done, failure, middle, events, stops, fails⟩
          · refine .inl ⟨disk, events, (Disk.replaceAll_cons first rest).trans others, ?_⟩
            exact start.trans (outcome_bind_ok succeeds _)
          · refine .inr ⟨file :: done, failure, middle, events, stops.cons first, ?_⟩
            exact start.trans (outcome_bind_error fails _)

end Session

def Spec.shape (spec : Spec) : Shape :=
  (Model.ofSpec spec none).shape

namespace Session

theorem map_of_rendered {α : Type} {session : Session} {specs : List Spec}
    {files : List RenderedFile} {entry : RenderedFile → α} {field : Spec → α}
    (rendered : List.Forall₂ (fun spec file => session.rendering spec = .ok file) specs files)
    (same : ∀ spec license,
      entry (.ofModel spec.destination (.ofSpec spec license)) = field spec) :
    files.map entry = specs.map field := by
  induction rendered with
  | nil => rfl
  | @cons spec file _ _ first _ ih =>
      obtain ⟨_, license, _, rfl⟩ := rendering_eq_ok_iff.mp first
      rw [List.map_cons, List.map_cons, same, ih]

end Session

end SealedEnum
