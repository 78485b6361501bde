import SealedEnum.Generation
import SealedEnum.Proofs.Host.Outcome

namespace SealedEnum

/-! Rendering reads a session and leaves it as it is. -/

namespace Session

def license (session : Session) (path : Option Path) : Except Failure (Option String) :=
  match path.filter fun path => !path.isEmpty with
  | none => .ok none
  | some path =>
      match session.readText path with
      | .ok text => .ok (some text)
      | .error error => .error (.license path error)

/-- What a specification renders to with the license that the session has for it. -/
def rendering (session : Session) (spec : Spec) : Except Failure RenderedFile :=
  match spec.validate with
  | .error violation => .error (.spec spec.typeName violation)
  | .ok () =>
      match session.license spec.licenseFile with
      | .ok license => .ok (.ofModel spec.destination (.ofSpec spec license))
      | .error failure => .error failure

theorem license_some (session : Session) {path : Path} (nonempty : path.isEmpty = false) :
    session.license (some path) =
      match session.readText path with
      | .ok text => .ok (some text)
      | .error error => .error (.license path error) := by
  have kept : (some path).filter (fun path => !path.isEmpty) = some path := by
    simp [Option.filter, nonempty]
  rw [license, kept]

theorem rendering_eq_ok_iff {session : Session} {spec : Spec} {file : RenderedFile} :
    session.rendering spec = .ok file ↔
      spec.validate = .ok () ∧ ∃ license, session.license spec.licenseFile = .ok license ∧
        file = .ofModel spec.destination (.ofSpec spec license) := by
  unfold rendering
  cases spec.validate with
  | error violation => simp
  | ok accepted =>
      cases session.license spec.licenseFile with
      | error failure => simp
      | ok license => simp [eq_comm]

theorem path_of_rendering {session : Session} {spec : Spec} {file : RenderedFile}
    (rendered : session.rendering spec = .ok file) : file.path = spec.destination := by
  obtain ⟨-, license, -, rfl⟩ := rendering_eq_ok_iff.mp rendered
  rfl

theorem outcome_loadLicense (session : Session) (path : Option Path) :
    session.outcome (loadLicense path) = (session.license path, session) := by
  unfold loadLicense license
  cases path.filter fun path => !path.isEmpty with
  | none => rfl
  | some path =>
      dsimp only
      rw [outcome_bind_ok (outcome_readText session path)]
      cases session.readText path <;> rfl

theorem outcome_renderFile (session : Session) (spec : Spec) :
    session.outcome (renderFile spec) = (session.rendering spec, session) := by
  unfold renderFile rendering
  cases spec.validate with
  | error violation => rfl
  | ok accepted =>
      have loaded := outcome_loadLicense session spec.licenseFile
      dsimp only
      cases found : session.license spec.licenseFile with
      | error failure =>
          rw [found] at loaded
          exact outcome_bind_error loaded _
      | ok license =>
          rw [found] at loaded
          exact outcome_bind_ok loaded _

theorem outcome_renderSpec (session : Session) (spec : Spec) :
    session.outcome (renderSpec spec) =
      ((session.rendering spec).map RenderedFile.content, session) := by
  unfold renderSpec
  rw [outcome_bind _ (outcome_renderFile session spec)]
  cases session.rendering spec <;> rfl

theorem outcome_renderAll (session : Session) (specs : List Spec) :
    session.outcome (renderAll specs) = (specs.mapM session.rendering, session) := by
  induction specs with
  | nil => rfl
  | cons spec rest ih =>
      have first := outcome_renderFile session spec
      rw [renderAll, List.mapM_cons]
      cases rendered : session.rendering spec with
      | error failure =>
          rw [rendered] at first
          exact outcome_bind_error first _
      | ok file =>
          rw [rendered] at first
          rw [outcome_bind_ok first]
          cases others : rest.mapM session.rendering with
          | error failure =>
              rw [others] at ih
              exact outcome_bind_error ih _
          | ok files =>
              rw [others] at ih
              exact outcome_bind_ok ih _

end Session

end SealedEnum
