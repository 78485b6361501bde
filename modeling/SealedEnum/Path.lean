import SealedEnum.Text.Lines

namespace SealedEnum

open SealedEnum.Text

/-! File paths: text whose components are separated by slashes. -/

structure Path where
  text : String
  deriving DecidableEq

namespace Path

inductive Component where
  | root
  | here
  | up
  | name (text : String)
  deriving DecidableEq

def isEmpty (path : Path) : Bool :=
  path.text.isEmpty

def startsAtRoot : List Char → Bool
  | '/' :: _ => true
  | _ => false

def startsHere : List Char → Bool
  | ['.'] => true
  | '.' :: '/' :: _ => true
  | _ => false

def isAbsolute (path : Path) : Bool :=
  startsAtRoot path.text.toList

/-- The leading slash or the leading dot, which stays whatever else is removed. -/
def anchor (text : List Char) : List Char :=
  if startsAtRoot text then ['/'] else if startsHere text then ['.'] else []

/-- The pieces between slashes behind the anchor; empty pieces and dots among them are void. -/
def pieces (text : List Char) : List (List Char) :=
  splitAt '/' (text.drop (anchor text).length)

def isVoid (piece : List Char) : Bool :=
  piece = [] || piece = ['.']

def componentOf (piece : List Char) : Component :=
  if piece = ['.', '.'] then .up else .name (String.ofList piece)

/-- Repeated slashes, dots inside and slashes or dots at the end leave no trace. -/
def components (path : Path) : List Component :=
  let text := path.text.toList
  let start : List Component :=
    if startsAtRoot text then [.root] else if startsHere text then [.here] else []
  start ++ ((pieces text).filter fun piece => !isVoid piece).map componentOf

/-- Paths agree when their components do, however they are spelled. -/
def agrees (left right : Path) : Bool :=
  left.components = right.components

/-- An absolute path replaces the directory it is joined to. -/
def join (directory path : Path) : Path :=
  if path.isAbsolute then path
  else if directory.isEmpty || directory.text.toList.getLast? = some '/' then
    ⟨directory.text ++ path.text⟩
  else
    ⟨directory.text ++ "/" ++ path.text⟩

def withSlashes (pieces : List (List Char)) : List Char :=
  List.intercalate ['/'] pieces

/-- The text up to the last component. A root and an empty path have no parent. -/
def parent? (path : Path) : Option Path :=
  let text := path.text.toList
  match (pieces text).reverse.dropWhile isVoid with
  | _ :: before =>
      let kept := (before.dropWhile isVoid).reverse
      some ⟨String.ofList (anchor text ++ withSlashes kept)⟩
  | [] => if startsHere text then some ⟨""⟩ else none

def ancestorsFrom : Nat → Path → List Path
  | 0, path => [path]
  | depth + 1, path =>
      match path.parent? with
      | none => [path]
      | some above => path :: ancestorsFrom depth above

/-- A path and its parents, the nearest first. -/
def ancestors (path : Path) : List Path :=
  ancestorsFrom path.text.length path

/-- The directory a path lies in, where a bare name lies in the current one. -/
def directory? (path : Path) : Option Path :=
  path.parent?.map fun above => if above.isEmpty then ⟨"."⟩ else above

end Path

end SealedEnum
