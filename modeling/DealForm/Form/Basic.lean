import DealForm.Form.DownloadName
import DealForm.Form.Rendering
import DealForm.Settings.Basic

/-!
# The form

The values that a user edits and the two areas that replies are rendered into. Selecting a base URL
sets the URL for lookups with it; the other edits change one value alone.
-/

namespace DealForm

structure Fields where
  baseUrl : String
  contentStatusUrl : String
  /-- The identifier of the last lookup that was started. -/
  contentId : Option String := none
  metadata : Metadata := {}
  deriving Repr

/-- The two areas. Each action overwrites its own. -/
structure Display where
  messageArea : String := ""
  responseArea : String := ""
  /-- The identifier whose reply the response area shows. -/
  responseContentId : Option String := none
  deriving DecidableEq, Repr

structure Form where
  presets : List Preset := []
  fields : Fields
  display : Display := {}
  deriving Repr

/-- A change that a user makes to one input, or to both URLs at once. -/
inductive Edit where
  | selectBaseUrl (url : String)
  | setBaseUrl (url : String)
  | setContentStatusUrl (url : String)
  | setMetadata (metadata : Metadata)
  | setResponseArea (text : String)
  deriving Repr

namespace Edit

def events : Edit → List LogEvent
  | selectBaseUrl url => [.selectedBaseUrl url]
  | _ => []

end Edit

namespace Form

def ofBaseUrl (url : String) (presets : List Preset := []) : Form where
  presets := presets
  fields := { baseUrl := url, contentStatusUrl := DealForm.contentStatusUrl url }

def ofSettings (settings : Settings) : Form where
  presets := settings.presets
  fields :=
    { baseUrl := settings.baseUrl
      contentStatusUrl := DealForm.contentStatusUrl settings.baseUrl
      metadata := settings.metadata }

def edit (f : Form) : Edit → Form
  | .selectBaseUrl url =>
    { f with fields :=
      { f.fields with baseUrl := url, contentStatusUrl := DealForm.contentStatusUrl url } }
  | .setBaseUrl url => { f with fields := { f.fields with baseUrl := url } }
  | .setContentStatusUrl url => { f with fields := { f.fields with contentStatusUrl := url } }
  | .setMetadata metadata => { f with fields := { f.fields with metadata } }
  | .setResponseArea text => { f with display := { f.display with responseArea := text } }

def presetEdit (f : Form) (key : String) : Except Error Edit :=
  match Preset.find? f.presets key with
  | some preset => .ok (.selectBaseUrl preset.url)
  | none => .error (.notFound (.preset key))

/-! ## Uploads -/

def uploadRequest (f : Form) (input : UploadInput) : UploadRequest where
  baseUrl := f.fields.baseUrl
  input := input
  metadata := f.fields.metadata

def showMessage (f : Form) (text : String) : Form :=
  { f with display := { f.display with messageArea := text } }

/-! ## Lookups -/

def noteContentId (f : Form) (contentId : String) : Form :=
  { f with fields := { f.fields with contentId := some contentId } }

def statusRequest (f : Form) (contentId : String) : StatusRequest where
  urlPrefix := f.fields.contentStatusUrl
  contentId := contentId

def showResponse (f : Form) (contentId text : String) : Form :=
  { f with display :=
    { f.display with responseArea := text, responseContentId := some contentId } }

def downloadName (f : Form) : String :=
  DealForm.downloadName f.display.responseContentId

end Form

end DealForm
