import DealForm.Api.Call

/-!
# Rendering replies

What the two text areas show of a reply: the JSON value, indented by four spaces, or the error. The
message area shows an error as a fragment of markup, which is never interpreted; the response area
shows its text as a JSON string. Should a value not be printed, the error of that stands in its
place.
-/

namespace DealForm

def uploadingMessage : String := "Uploading..."

/-- Prints a value piece by piece to where each write may fail. -/
def Json.printTo {σ : Type} (write : σ → Char → Except Error σ) (layout : Layout) (v : Json)
    (s : σ) : Except Error σ :=
  (v.chars layout 0).foldlM write s

/-- Prints a value into memory, last piece first, as the areas show it. -/
def prettyText (v : Json) : Except Error String := do
  let written ← v.printTo (fun written c ↦ .ok (c :: written)) (.indented 4) []
  return String.ofList written.reverse

def errorFragment (error : Error) : String :=
  "<div class=\"message error\">" ++ error.message ++ "</div>"

def quotedMessage (error : Error) : String :=
  match prettyText (.string error.message) with
  | .ok text => text
  | .error _ => error.message

def renderUpload : Reply → String
  | .ok body =>
    match prettyText body with
    | .ok text => text
    | .error error => errorFragment error
  | .error error => errorFragment error

def renderStatus : Reply → String
  | .ok body =>
    match prettyText body with
    | .ok text => text
    | .error error => quotedMessage error
  | .error error => quotedMessage error

end DealForm
