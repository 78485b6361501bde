import SealedEnum.Config.Resolution
import SealedEnum.Digest
import SealedEnum.Source.OfModel
import SealedEnum.Text.Quoted
import SealedEnum.Writing

namespace SealedEnum

open SealedEnum.Text

/-! From specifications to files. -/

variable {m : Type → Type} [Monad m] [Host m]

/-- The text of a license file; an empty path names none. -/
def loadLicense (path : Option Path) : Run m (Option String) := do
  match path.filter fun path => !path.isEmpty with
  | none => return none
  | some path =>
      match ← Host.readText path with
      | .ok text => return some text
      | .error error => throw (.license path error)

structure RenderedFile where
  path : Path
  typeName : String
  shape : Shape
  content : String
  deriving DecidableEq

structure GeneratedFile where
  path : Path
  bytesWritten : Nat
  typeName : String
  shape : Shape
  digest : String
  deriving DecidableEq

structure CheckedFile where
  path : Path
  typeName : String
  status : CheckStatus
  deriving DecidableEq

structure GenerationReport where
  files : List GeneratedFile
  enumsProcessed : Nat
  deriving DecidableEq

def GenerationReport.totalBytes (report : GenerationReport) : Nat :=
  (report.files.map GeneratedFile.bytesWritten).foldr (· + ·) 0

def RenderedFile.bytes (file : RenderedFile) : ByteArray :=
  file.content.toUTF8

def RenderedFile.ofModel (path : Path) (model : Model) : RenderedFile where
  path := path
  typeName := model.typeName
  shape := model.shape
  content := model.render

/-- An invalid specification fails before its license is read. -/
def renderFile (spec : Spec) : Run m RenderedFile := do
  match spec.validate with
  | .error violation => throw (.spec spec.typeName violation)
  | .ok () =>
      let license ← loadLicense spec.licenseFile
      return .ofModel spec.destination (.ofSpec spec license)

def renderSpec (spec : Spec) : Run m String := do
  return (← renderFile spec).content

def writeRendered (file : RenderedFile) : Run m GeneratedFile := do
  let bytesWritten ← writeAtomically file.path file.bytes
  Host.log ⟨.information, s!"Generated {quoted file.path.text}",
    [("type_name", file.typeName), ("shape", file.shape.name), ("bytes", toString bytesWritten)]⟩
  return ⟨file.path, bytesWritten, file.typeName, file.shape, Digest.ofBytes file.bytes⟩

def generate (spec : Spec) : Run m GeneratedFile := do
  writeRendered (← renderFile spec)

def check (spec : Spec) : Run m CheckStatus := do
  let file ← renderFile spec
  checkFile file.path file.bytes

/-- The specifications of the named types, in their own order. No names select all. -/
def selectOnly (names : List String) (specs : List Spec) : Except Failure (List Spec) :=
  if names.isEmpty then .ok specs
  else
    match names.find? fun name => !(specs.map Spec.typeName).contains name with
    | some missing => .error (.typeNotFound missing)
    | none => .ok (specs.filter fun spec => names.contains spec.typeName)

def renderAll : List Spec → Run m (List RenderedFile)
  | [] => return []
  | spec :: rest => do
      let file ← renderFile spec
      return file :: (← renderAll rest)

def writeAll : List RenderedFile → Run m (List GeneratedFile)
  | [] => return []
  | file :: rest => do
      let written ← writeRendered file
      return written :: (← writeAll rest)

/-- Nothing is written unless everything renders. -/
def generateAll (specs : List Spec) : Run m GenerationReport := do
  Host.inform "Starting enum generation"
  let rendered ← renderAll specs
  let report : GenerationReport := ⟨← writeAll rendered, rendered.length⟩
  Host.inform
    s!"Generation complete. Generated {report.files.length} files ({report.totalBytes} bytes)"
  return report

def checkRendered : List RenderedFile → Run m (List CheckedFile)
  | [] => return []
  | file :: rest => do
      let status ← checkFile file.path file.bytes
      if status ≠ .upToDate then
        Host.log ⟨.warning, s!"{file.typeName} is {status.name}: {quoted file.path.text}", []⟩
      return ⟨file.path, file.typeName, status⟩ :: (← checkRendered rest)

def checkAll (specs : List Spec) : Run m (List CheckedFile) := do
  checkRendered (← renderAll specs)

end SealedEnum
