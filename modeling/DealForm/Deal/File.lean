import DealForm.Deal.Upload
import DealForm.File.Tree

/-!
# Picking a file

A file that is picked for an upload keeps its content and its own name. A name that is no text is
replaced by a fixed one.
-/

namespace DealForm.FileBlob

/-- The name of a file whose own name is no text. -/
def fallbackName : String := "data"

def nameOf (file : Path) : String :=
  match file.fileName? with
  | none => fallbackName
  | some name => ((Utf8.decode name).toOption).getD fallbackName

def read (files : FileTree) (file : Path) : Except FileFault FileBlob := do
  let bytes ← files.readBytes file
  return { fileName := nameOf file, bytes }

end DealForm.FileBlob
