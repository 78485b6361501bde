import SealedEnum.Host

namespace SealedEnum

/-! Files replaced as a whole, and compared with what they should hold. -/

variable {m : Type → Type} [Monad m] [Host m]

def orWriteFailure {α : Type} (path : Path) (temporary : Option TemporaryFile)
    (result : Except IoError α) : Run m α :=
  match result with
  | .ok value => pure value
  | .error error => do
      match temporary with
      | some file => Host.discard file
      | none => pure ()
      throw (.write path error)

/-- Writes a temporary file beside the destination and gives it the destination's name, so that a
reader sees the old file or the new one. The number of bytes is returned. -/
def writeAtomically (path : Path) (content : ByteArray) : Run m Nat := do
  match path.directory? with
  | none => throw (.missingParent path)
  | some directory =>
      if !(← Host.isDirectory directory) then throw (.missingParent path)
      let temporary ← orWriteFailure path none (← Host.createTemporary directory)
      orWriteFailure path (some temporary) (← Host.fill temporary content)
      orWriteFailure path (some temporary) (← Host.persist temporary path)
      return content.size

inductive CheckStatus where
  | upToDate
  | stale
  | missing
  deriving DecidableEq

def CheckStatus.name : CheckStatus → String
  | .upToDate => "UpToDate"
  | .stale => "Stale"
  | .missing => "Missing"

def checkFile (path : Path) (content : ByteArray) : Run m CheckStatus := do
  match ← Host.read path with
  | .ok existing => return if existing.data = content.data then .upToDate else .stale
  | .error .notFound => return .missing
  | .error error => throw (.io error)

end SealedEnum
