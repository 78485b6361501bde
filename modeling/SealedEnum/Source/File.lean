import SealedEnum.Source.Declaration

namespace SealedEnum.Source

/-! A source file: sections of lines, with one blank line between two of them. -/

structure File where
  header : Option (List String)
  package : String
  imports : List String
  declarations : List Declaration
  deriving DecidableEq

namespace File

def generatedMarker : String :=
  "// Code generated by enumerator DO NOT EDIT."

def importLines (imports : List String) : List String :=
  ["import ("] ++ imports.map (fun name => s!"\t\"{name}\"") ++ [")"]

def sections (file : File) : List (List String) :=
  file.header.toList
    ++ [[s!"package {file.package}"], [generatedMarker]]
    ++ (if file.imports.isEmpty then [] else [importLines file.imports])
    ++ file.declarations.map Declaration.lines

def lines (file : File) : List String :=
  List.intercalate [""] file.sections

/-- Every line ends in a line feed. -/
def text (file : File) : String :=
  String.join (file.lines.map fun line => line ++ "\n")

/-- The package-level names the file declares. -/
def declares (file : File) : List String :=
  file.declarations.flatMap Declaration.declares

end File

end SealedEnum.Source
