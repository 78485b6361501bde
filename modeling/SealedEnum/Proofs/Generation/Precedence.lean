import SealedEnum.Proofs.Generation.OwnLicense
import SealedEnum.Proofs.Host.Atomicity
import SealedEnum.Summary

namespace SealedEnum

/-! What decides how the generation of a file ends: the specification, then its license, then the
write. Whatever looks at a specification refuses the same ones. -/

namespace Run

end Run

namespace Session

variable {session after : Session} {spec : Spec} {failure : Failure} {text : String}
  {file : RenderedFile}

theorem generate_eq_error_iff :
    session.outcome (generate spec) = (.error failure, after) ↔
      (session.rendering spec = .error failure ∨ ∃ file, session.rendering spec = .ok file ∧
        session.disk.replace session.directory file.path file.bytes = .error failure) ∧
          session = after := by
  obtain ⟨events, generates⟩ := outcome_generate session spec
  rw [generates]
  cases session.rendering spec with
  | error refused => simp
  | ok file =>
      dsimp only
      cases replaced : session.disk.replace session.directory file.path file.bytes <;>
        simp [replaced]

end Session

end SealedEnum
