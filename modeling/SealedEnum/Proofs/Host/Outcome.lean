import SealedEnum.Host.Session

namespace SealedEnum

/-! Runs on a machine that is a value. -/

theorem mapError_eq_ok_iff {α ε ε' : Type} {describe : ε → ε'} {result : Except ε α} {value : α} :
    result.mapError describe = .ok value ↔ result = .ok value := by
  cases result with
  | error error => exact ⟨nofun, nofun⟩
  | ok found =>
      constructor <;> exact fun same => congrArg _ (Except.ok.inj same)

theorem mapError_eq_error_iff {α ε ε' : Type} {describe : ε → ε'} {result : Except ε α}
    {error : ε'} :
    result.mapError describe = .error error ↔
      ∃ cause, result = .error cause ∧ error = describe cause := by
  cases result with
  | ok value => exact ⟨nofun, nofun⟩
  | error cause =>
      constructor
      · intro same
        exact ⟨cause, rfl, (Except.error.inj same).symm⟩
      · rintro ⟨_, same, rfl⟩
        obtain rfl := Except.error.inj same
        rfl

namespace Session

variable {α β : Type} {session after : Session}

/-- What a run results in, and the session it leaves behind. -/
def outcome (session : Session) (run : Run (StateM Session) α) : Except Failure α × Session :=
  (ExceptT.run run).run session

@[simp] theorem outcome_pure (session : Session) (value : α) :
    session.outcome (pure value) = (.ok value, session) :=
  rfl

theorem outcome_bind_ok {first : Run (StateM Session) α} {value : α}
    (succeeds : session.outcome first = (.ok value, after))
    (next : α → Run (StateM Session) β) :
    session.outcome (first >>= next) = after.outcome (next value) := by
  unfold outcome at *
  rw [ExceptT.run_bind, StateT.run_bind, succeeds]
  rfl

theorem outcome_bind_error {first : Run (StateM Session) α} {failure : Failure}
    (fails : session.outcome first = (.error failure, after))
    (next : α → Run (StateM Session) β) :
    session.outcome (first >>= next) = (.error failure, after) := by
  unfold outcome at *
  rw [ExceptT.run_bind, StateT.run_bind, fails]
  rfl

theorem outcome_bind {first : Run (StateM Session) α} {result : Except Failure α}
    (next : α → Run (StateM Session) β) :
    session.outcome first = (result, after) →
      session.outcome (first >>= next) =
        match result with
        | .ok value => after.outcome (next value)
        | .error failure => (.error failure, after) := by
  intro runs
  cases result with
  | ok value => exact outcome_bind_ok runs next
  | error failure => exact outcome_bind_error runs next

theorem run_bind_of_run {first : StateM Session α} {value : α}
    (runs : first.run session = (value, after)) (next : α → StateM Session β) :
    (first >>= next).run session = (next value).run after := by
  rw [StateT.run_bind, runs]
  rfl

theorem outcome_lift {step : StateM Session α} {value : α}
    (runs : step.run session = (value, after)) :
    session.outcome (liftM step) = (.ok value, after) := by
  change Prod.map Except.ok id (step.run session) = _
  rw [runs]
  rfl

theorem outcome_ofExcept {α : Type} (session : Session) (result : Except Failure α) :
    session.outcome (Run.ofExcept result) = (result, session) :=
  rfl

theorem outcome_inform (session : Session) (message : String) :
    ∃ events, session.outcome (Host.inform message) = (.ok (), { session with events }) :=
  ⟨_, rfl⟩

def readText (session : Session) (path : Path) : Except IoError String :=
  match session.disk.read session.directory path with
  | .error error => .error error
  | .ok bytes =>
      match String.fromUTF8? bytes with
      | some text => .ok text
      | none => .error .notUnicode

theorem outcome_readText (session : Session) (path : Path) :
    session.outcome (Host.readText path) = (.ok (session.readText path), session) := by
  have read : session.outcome (Host.read path) =
      (.ok (session.disk.read session.directory path), session) := rfl
  rw [Host.readText, outcome_bind_ok read, readText]
  cases session.disk.read session.directory path with
  | error error => rfl
  | ok bytes =>
      dsimp only
      cases String.fromUTF8? bytes <;> rfl

end Session

end SealedEnum
