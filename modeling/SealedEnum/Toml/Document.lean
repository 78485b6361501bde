import SealedEnum.Toml.Expression

namespace SealedEnum.Toml

/-! Documents: headers and key-value lines, from the first line to the last. -/

/-- The text so far, and the table that the next key-value line belongs to. -/
structure Draft where
  entries : Entries
  current : List String

namespace Draft

def add? (draft : Draft) (path : List String) (name : String) (value : Value) : Option Draft :=
  (draft.entries.updateAt? (Entries.insertDotted? name value path) draft.current).map
    fun entries => { draft with entries }

def openTable? (draft : Draft) (path : List String) (name : String) : Option Draft :=
  (draft.entries.openTable? path name).map fun entries => ⟨entries, path ++ [name]⟩

def openElement? (draft : Draft) (path : List String) (name : String) : Option Draft :=
  (draft.entries.openElement? path name).map fun entries => ⟨entries, path ++ [name]⟩

end Draft

/-- One line of a document, after its leading blanks. -/
def line (draft : Draft) : List Char → Option (Draft × List Char)
  | '[' :: '[' :: text => do
      let ((path, name), rest) ← key text
      match skipBlanks rest with
      | ']' :: ']' :: rest => return (← draft.openElement? path name, rest)
      | _ => none
  | '[' :: text => do
      let ((path, name), rest) ← key text
      match skipBlanks rest with
      | ']' :: rest => return (← draft.openTable? path name, rest)
      | _ => none
  | text => do
      let ((path, name, value), rest) ← keyValue (value maximumDepth) text
      return (← draft.add? path name value, rest)

def linesFrom : Nat → Draft → List Char → Option Draft
  | 0, _, _ => none
  | fuel + 1, draft, text =>
      match skipGap false text with
      | none => none
      | some [] => some draft
      | some text =>
          match line draft text with
          | none => none
          | some (draft, rest) => if endsLine rest then linesFrom fuel draft rest else none

def withoutByteOrderMark : List Char → List Char
  | '\ufeff' :: rest => rest
  | text => text

/-- The root table of a document. -/
def document? (text : String) : Option Entries :=
  let characters := withoutByteOrderMark text.toList
  (linesFrom (characters.length + 1) ⟨[], []⟩ characters).map Draft.entries

end SealedEnum.Toml
