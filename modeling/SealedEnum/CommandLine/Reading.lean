import SealedEnum.CommandLine.Setting
import SealedEnum.CommandLine.Word
import SealedEnum.Text.Lines

namespace SealedEnum.CommandLine

open SealedEnum.Text

/-! What the words of one scope set. -/

structure Occurrence where
  setting : Setting
  value : Option String := none
  deriving DecidableEq

/-- The occurrences so far. The last option with a value is held back until the next one, and its
value may still have to come. -/
structure Reading where
  given : List Occurrence := []
  held : Option Occurrence := none
  deriving DecidableEq

namespace Reading

def isGiven (reading : Reading) (setting : Setting) : Bool :=
  reading.given.any fun occurrence => occurrence.setting = setting

def count (reading : Reading) (setting : Setting) : Nat :=
  reading.given.countP fun occurrence => occurrence.setting = setting

def valuesOf (reading : Reading) (setting : Setting) : List String :=
  (reading.given.filter fun occurrence => occurrence.setting = setting).filterMap Occurrence.value

def value? (reading : Reading) (setting : Setting) : Option String :=
  (reading.valuesOf setting).head?

/-- The values between commas; empty ones count. -/
def list (reading : Reading) (setting : Setting) : List String :=
  (reading.valuesOf setting).flatMap fun value =>
    (splitAt ',' value.toList).map String.ofList

def isWaiting (reading : Reading) : Bool :=
  match reading.held with
  | some ⟨_, none⟩ => true
  | _ => false

def give (reading : Reading) (occurrence : Occurrence) : Except Rejection Reading :=
  let setting := occurrence.setting
  if setting.takesValue && occurrence.value.isNone then .error .invalidValue
  else if setting = .help then .error .helpRequested
  else if setting = .version then .error .versionRequested
  else if reading.isGiven setting && !setting.mayRepeat then .error .argumentConflict
  else if occurrence.value.any fun value => !setting.accepts value then .error .invalidValue
  else .ok { reading with given := reading.given ++ [occurrence] }

/-- Gives what was held back. -/
def release (reading : Reading) : Except Rejection Reading :=
  match reading.held with
  | none => .ok reading
  | some occurrence => give { reading with held := none } occurrence

def take (reading : Reading) (occurrence : Occurrence) : Except Rejection Reading := do
  (← reading.release).give occurrence

/-- Waits for an option's value. -/
def await (reading : Reading) (setting : Setting) : Except Rejection Reading := do
  return { ← reading.release with held := some ⟨setting, none⟩ }

def supply (reading : Reading) (value : String) : Reading :=
  let supplied := fun (occurrence : Occurrence) => { occurrence with value := some value }
  { reading with held := reading.held.map supplied }

def takeLong (settings : List Setting) (reading : Reading) (name : String)
    (value : Option String) : Except Rejection Reading :=
  match settings.find? fun setting => setting.longName == name with
  | none => .error .unknownArgument
  | some setting =>
      match setting.takesValue, value with
      | true, none => reading.await setting
      | true, some value => reading.take ⟨setting, some value⟩
      | false, none => reading.take ⟨setting, none⟩
      | false, some _ => .error .tooManyValues

def afterEquals : List Char → List Char
  | '=' :: rest => rest
  | letters => letters

/-- Switches share a dash; the rest behind an option with a value is that value. -/
def takeShort (settings : List Setting) : Reading → List Char → Except Rejection Reading
  | reading, [] => .ok reading
  | reading, letter :: rest =>
      match settings.find? fun setting => setting.letter? == some letter with
      | none => .error .unknownArgument
      | some setting =>
          if setting.takesValue then
            if rest.isEmpty then reading.await setting
            else reading.take ⟨setting, some (String.ofList (afterEquals rest))⟩
          else
            match reading.take ⟨setting, none⟩ with
            | .ok next => takeShort settings next rest
            | .error rejection => .error rejection

end Reading

/-- Help on a subcommand, or on help itself, which has no further subcommands. -/
def helpFor : List String → Rejection
  | [] => .helpRequested
  | [topic] =>
      if topic = "help" || (Subcommand.ofName? topic).isSome then .helpRequested
      else .invalidSubcommand
  | _ => .invalidSubcommand

/-- Why a plain word cannot stand in a scope. -/
def Scope.stray (scope : Scope) (isBehindSeparator : Bool) (word : String) : Rejection :=
  match scope with
  | .within _ => .unknownArgument
  | .tool =>
      if isBehindSeparator && (word = "help" || (Subcommand.ofName? word).isSome) then
        .unknownArgument
      else .invalidSubcommand

/-- Reads the words of a scope. A subcommand's name ends the tool's own scope. -/
def Scope.read (scope : Scope) :
    Reading → List String → Except Rejection (Reading × Option (Subcommand × List String))
  | reading, [] => .ok (reading, none)
  | reading, word :: rest =>
      match Word.ofString word with
      | .separator =>
          match rest with
          | [] => .ok (reading, none)
          | extra :: _ => .error (scope.stray true extra)
      | .long name value =>
          match reading.takeLong scope.settings name value with
          | .ok next => scope.read next rest
          | .error rejection => .error rejection
      | .short letters =>
          match reading.takeShort scope.settings letters with
          | .ok next => scope.read next rest
          | .error rejection => .error rejection
      | .plain text =>
          if reading.isWaiting then scope.read (reading.supply text) rest
          else
            match scope, Subcommand.ofName? text with
            | .tool, some subcommand => .ok (reading, some (subcommand, rest))
            | .tool, none =>
                .error (if text = "help" then helpFor rest else scope.stray false text)
            | .within _, _ => .error (scope.stray false text)

end SealedEnum.CommandLine
