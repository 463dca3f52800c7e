import DealForm.File.Path

/-!
# Names of downloads

A saved response is named after the identifier whose reply it is. Characters that could mean
something in a path are replaced by underscores.
-/

namespace DealForm

def isPlainNameChar (c : Char) : Bool :=
  c.isAlphanum || c == '.' || c == '_' || c == '-'

def sanitize (text : String) : String :=
  String.ofList (text.toList.map fun c ↦ if isPlainNameChar c then c else '_')

def downloadName (contentId : Option String) : String :=
  match contentId with
  | none => "status-check.txt"
  | some contentId =>
    if contentId.isEmpty then "status-check.txt"
    else "status-check-for" ++ sanitize contentId ++ ".txt"

end DealForm
