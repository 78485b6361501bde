import SealedEnum.Toml.Value

namespace SealedEnum.Toml

/-! Additions to tables. Each is refused where the document has already settled the place. -/

namespace Entries

def has (entries : Entries) (key : String) : Bool :=
  entries.any fun entry => entry.1 == key

def replace (entries : Entries) (key : String) (value : Value) : Entries :=
  entries.map fun entry => if entry.1 == key then (key, value) else entry

def insert? (entries : Entries) (key : String) (value : Value) : Option Entries :=
  if entries.has key then none else some (entries ++ [(key, value)])

/-- A dotted key makes its own tables and extends only tables made by dotted keys; on the way it may
pass through tables that headers imply. -/
def insertDotted? (key : String) (value : Value) : List String → Entries → Option Entries
  | [], entries => entries.insert? key value
  | part :: path, entries =>
      match entries.lookup part with
      | none => do
          let inner ← insertDotted? key value path []
          entries.insert? part (.table .dotted inner)
      | some (.table origin inner) =>
          if origin = .dotted || (origin = .implied && !path.isEmpty) then do
            let inner ← insertDotted? key value path inner
            return entries.replace part (.table origin inner)
          else none
      | some _ => none

/-- Changes the table a header path leads to, through the last element of an array of tables. -/
def updateAt? (change : Entries → Option Entries) : List String → Entries → Option Entries
  | [], entries => change entries
  | part :: path, entries =>
      match entries.lookup part with
      | none => do
          let inner ← updateAt? change path []
          entries.insert? part (.table .implied inner)
      | some (.table origin inner) =>
          if origin = .inlined then none
          else do
            let inner ← updateAt? change path inner
            return entries.replace part (.table origin inner)
      | some (.tables items) =>
          match items.getLast? with
          | some (.table origin inner) => do
              let inner ← updateAt? change path inner
              return entries.replace part (.tables (items.dropLast ++ [.table origin inner]))
          | _ => none
      | some _ => none

/-- The effect of a table header: only a table that headers imply may be there before. -/
def openTable? (path : List String) (key : String) : Entries → Option Entries :=
  updateAt? (fun entries =>
    match entries.lookup key with
    | none => entries.insert? key (.table .header [])
    | some (.table .implied inner) => some (entries.replace key (.table .header inner))
    | some _ => none) path

/-- The effect of an array header: a new table at the end of the array. -/
def openElement? (path : List String) (key : String) : Entries → Option Entries :=
  updateAt? (fun entries =>
    match entries.lookup key with
    | none => entries.insert? key (.tables [.table .header []])
    | some (.tables items) =>
        some (entries.replace key (.tables (items ++ [.table .header []])))
    | some _ => none) path

end Entries

end SealedEnum.Toml
