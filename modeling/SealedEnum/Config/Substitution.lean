import SealedEnum.Config

namespace SealedEnum.Substitution

/-!
Tokens `${NAME}` and `${NAME:-default}` in path settings. The text is read from the left; a token
starts wherever one can, and what replaces it is not read again.
-/

structure Token where
  name : List Char
  default? : Option (List Char)
  deriving DecidableEq

inductive Piece where
  | literal (c : Char)
  | token (token : Token)
  deriving DecidableEq

def isNamePart (c : Char) : Bool :=
  c != '}' && c != ':'

def isDefaultPart (c : Char) : Bool :=
  c != '}'

/-- The token at the start of a text, and the text behind it. -/
def tokenAt? : List Char → Option (Token × List Char)
  | '$' :: '{' :: text =>
      let name := text.takeWhile isNamePart
      if name.isEmpty then none
      else
        match text.dropWhile isNamePart with
        | '}' :: rest => some (⟨name, none⟩, rest)
        | ':' :: '-' :: text =>
            match text.dropWhile isDefaultPart with
            | _ :: rest => some (⟨name, some (text.takeWhile isDefaultPart)⟩, rest)
            | [] => none
        | _ => none
  | _ => none

private theorem length_dropWhile_le (p : Char → Bool) (text : List Char) :
    (text.dropWhile p).length ≤ text.length :=
  (List.dropWhile_sublist p).length_le

theorem length_of_tokenAt? {text rest : List Char} {token : Token}
    (h : tokenAt? text = some (token, rest)) : rest.length < text.length := by
  unfold tokenAt? at h
  split at h
  · rename_i text
    have hname := length_dropWhile_le isNamePart text
    dsimp only at h
    split at h
    · simp at h
    · split at h
      · rename_i heq
        simp only [Option.some.injEq, Prod.mk.injEq] at h
        simp only [heq, h.2, List.length_cons] at hname
        simp only [List.length_cons]
        omega
      · rename_i inner heq
        have hdefault := length_dropWhile_le isDefaultPart inner
        split at h
        · rename_i heq'
          simp only [Option.some.injEq, Prod.mk.injEq] at h
          simp only [heq, List.length_cons] at hname
          simp only [heq', h.2, List.length_cons] at hdefault
          simp only [List.length_cons]
          omega
        · simp at h
      · simp at h
  · simp at h

def pieces (text : List Char) : List Piece :=
  match h : tokenAt? text with
  | some (token, rest) =>
      have := length_of_tokenAt? h
      .token token :: pieces rest
  | none =>
      match text with
      | [] => []
      | c :: rest => .literal c :: pieces rest
termination_by text.length

def Piece.variable? : Piece → Option String
  | .literal _ => none
  | .token t => some (String.ofList t.name)

/-- The variables a text mentions, from left to right. -/
def mentions (text : String) : List String :=
  (pieces text.toList).filterMap Piece.variable?

/-- What stands for a token: the variable where it is set and not empty, else the default. -/
def Token.value (lookup : String → Option String) (token : Token) : Except String (List Char) :=
  match (lookup (String.ofList token.name)).filter fun value => !value.isEmpty with
  | some value => .ok value.toList
  | none =>
      match token.default? with
      | some text => .ok text
      | none => .error (String.ofList token.name)

def Piece.value (lookup : String → Option String) : Piece → Except String (List Char)
  | .literal c => .ok [c]
  | .token t => t.value lookup

/-- Fails with the name of the first variable that has neither value nor default. -/
def expandPieces (lookup : String → Option String) : List Piece → Except String (List Char)
  | [] => .ok []
  | piece :: rest => do
      let value ← piece.value lookup
      let tail ← expandPieces lookup rest
      return value ++ tail

def expand (lookup : String → Option String) (text : String) : Except String String :=
  (expandPieces lookup (pieces text.toList)).map String.ofList

def expand? (lookup : String → Option String) :
    Option String → Except String (Option String)
  | none => .ok none
  | some text => (expand lookup text).map some

end SealedEnum.Substitution

namespace SealedEnum

open SealedEnum.Substitution

def GeneralSettings.expand (lookup : String → Option String) (settings : GeneralSettings) :
    Except String GeneralSettings := do
  let outputDirectory ← Substitution.expand lookup settings.outputDirectory
  let licenseFile ← expand? lookup settings.licenseFile
  return { settings with outputDirectory, licenseFile }

def EnumSettings.expand (lookup : String → Option String) (entry : EnumSettings) :
    Except String EnumSettings := do
  let destination ← expand? lookup entry.destination
  let licenseFile ← expand? lookup entry.licenseFile
  return { entry with destination, licenseFile }

def EnumSettings.expandAll (lookup : String → Option String) :
    List EnumSettings → Except String (List EnumSettings)
  | [] => .ok []
  | entry :: rest => do
      let entry ← entry.expand lookup
      let rest ← expandAll lookup rest
      return entry :: rest

/-- Only path settings are expanded. -/
def Config.expand (lookup : String → Option String) (config : Config) : Except String Config := do
  let general ← config.general.expand lookup
  let enums ← EnumSettings.expandAll lookup config.enums
  return { general, enums }

end SealedEnum
