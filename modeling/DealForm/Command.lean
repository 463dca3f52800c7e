import DealForm.Deal.File
import DealForm.Form.Session
import DealForm.Settings.Store

/-!
# Commands

An upload or a lookup as one command on a session: choose the base URL, make the call, and save the
response where that is asked for. What was done before an error stays done.
-/

namespace DealForm

/-- Which base URL a command works with: one given by its URL, one of a preset, or the one that is
selected already. -/
structure TargetOptions where
  url : Option String := none
  preset : Option String := none
  deriving DecidableEq, Repr

structure UploadOptions where
  target : TargetOptions := {}
  file : Path
  minerId : String
  apiKey : String
  metadata : Option String := none
  deriving DecidableEq, Repr

structure StatusOptions where
  target : TargetOptions := {}
  contentId : String
  kind : StatusKind := .standard
  /-- What the identifier is appended to, whatever its kind. -/
  contentUrl : Option String := none
  saveDirectory : Option Path := none
  deriving DecidableEq, Repr

structure StatusOutcome where
  rendered : String
  savedTo : Option Path := none
  deriving DecidableEq, Repr

namespace Session

variable {σ : Type}

/-- Chooses the base URL. A URL wins over a preset. -/
def choose (s : Session) (target : TargetOptions) : Except Error Unit × Session :=
  match target.url, target.preset with
  | some url, _ => (.ok (), s.edit (.selectBaseUrl url))
  | none, some key => s.selectPreset key
  | none, none => (.ok (), s)

def override (s : Session) (metadata : Option String) : Except Error Unit × Session :=
  match metadata with
  | none => (.ok (), s)
  | some text =>
    match Metadata.parse text with
    | .error report => (.error (.invalidMetadata (.malformed report)), s)
    | .ok metadata => (.ok (), s.edit (.setMetadata metadata))

def uploadCommand (api : Api σ) (s : Session) (options : UploadOptions) (w : σ) :
    Except Error String × Session × σ :=
  match s.choose options.target with
  | (.error error, s) => (.error error, s, w)
  | (.ok (), s) =>
    match s.override options.metadata with
    | (.error error, s) => (.error error, s, w)
    | (.ok (), s) =>
      match FileBlob.read s.files options.file with
      | .error fault => (.error (.io fault), s, w)
      | .ok file =>
        let input := { file, minerId := options.minerId, apiKey := options.apiKey }
        let (text, s, w) := s.submitUpload api input w
        (.ok text, s, w)

/-- Sets the URL for lookups of a kind. The kind that is standard leaves it as it is. -/
def aimAt (s : Session) (kind : StatusKind) : Session :=
  if kind = .standard then s
  else s.edit (.setContentStatusUrl (kind.urlPrefix s.form.fields.baseUrl))

def aimAtUrl (s : Session) (contentUrl : Option String) : Session :=
  match contentUrl with
  | none => s
  | some url => s.edit (.setContentStatusUrl url)

def statusCommand (api : Api σ) (s : Session) (options : StatusOptions) (w : σ) :
    Except Error StatusOutcome × Session × σ :=
  match s.choose options.target with
  | (.error error, s) => (.error error, s, w)
  | (.ok (), s) =>
    let s := (s.aimAt options.kind).aimAtUrl options.contentUrl
    let s := s.note [.lookingUp options.kind options.contentId]
    let (rendered, s, w) := s.requestStatus api options.contentId w
    match options.saveDirectory with
    | none => (.ok { rendered }, s, w)
    | some directory =>
      match s.download directory with
      | (.ok file, s) => (.ok { rendered, savedTo := some file }, s, w)
      | (.error error, s) => (.error error, s, w)

end Session

end DealForm
