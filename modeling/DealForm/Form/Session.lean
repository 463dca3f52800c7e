import DealForm.Form.Basic

/-!
# Sessions

A form that several tasks work on at once, a file tree, and the calls made so far. A task goes
through its phases one by one; each step of a task reads or writes the fields or the areas once,
and steps of different tasks may come in any order. Between the step that makes a call and the one
that takes the reply the task waits, and others go on.

A run is a list of steps. A step that does not fit the phase of its task changes nothing.
-/

namespace DealForm

inductive Operation where
  | edit (change : Edit)
  | selectPreset (key : String)
  | upload (input : UploadInput)
  | status (contentId : String)
  | download (directory : Path)
  deriving Repr

inductive Outcome where
  | edited
  | rendered (text : String)
  | saved (file : Path)
  | failed (error : Error)
  deriving Repr

inductive Phase where
  | editing (change : Edit)
  | choosing (key : String)
  /-- An upload was submitted and has not read the fields yet. -/
  | uploadSubmitted (input : UploadInput)
  /-- An upload has read the fields. -/
  | uploadComposed (request : UploadRequest)
  /-- An upload has written its placeholder. -/
  | uploadAnnounced (request : UploadRequest)
  | uploadWaiting (request : UploadRequest)
  | uploadAnswered (request : UploadRequest) (reply : Reply)
  /-- A lookup was asked for and has not touched the fields yet. -/
  | statusAsked (contentId : String)
  /-- A lookup has noted its identifier and read the fields. -/
  | statusComposed (request : StatusRequest)
  | statusWaiting (request : StatusRequest)
  | statusAnswered (request : StatusRequest) (reply : Reply)
  | downloadAsked (directory : Path)
  /-- A download has read the text. -/
  | downloadRead (directory : Path) (text : String)
  /-- A download has read the text and the name of its file. -/
  | downloadNamed (file : Path) (text : String)
  | ended (outcome : Outcome)

namespace Operation

def firstPhase : Operation → Phase
  | edit change => .editing change
  | selectPreset key => .choosing key
  | upload input => .uploadSubmitted input
  | status contentId => .statusAsked contentId
  | download directory => .downloadAsked directory

end Operation

structure Session where
  form : Form
  files : FileTree
  tasks : Nat → Option Phase := fun _ ↦ none
  /-- Above the number of every task that was started. -/
  next : Nat := 0
  calls : List (Nat × Call) := []
  log : List LogEvent := []

inductive Step where
  | start (task : Nat) (operation : Operation)
  /-- A task that does not wait goes on. -/
  | advance (task : Nat)
  /-- A task that waits gets its reply. -/
  | answer (task : Nat) (reply : Reply)

namespace Session

def note (s : Session) (events : List LogEvent) : Session :=
  { s with log := s.log ++ events }

def enter (s : Session) (task : Nat) (phase : Phase) : Session :=
  { s with tasks := fun other ↦ if other = task then some phase else s.tasks other }

def call (s : Session) (task : Nat) (c : Call) : Session :=
  { s with calls := s.calls ++ [(task, c)] }

def makeEdit (s : Session) (task : Nat) (change : Edit) : Session :=
  ({ s with form := s.form.edit change }.note change.events).enter task (.ended .edited)

def save (s : Session) (task : Nat) (file : Path) (text : String) : Session :=
  match s.files.writeText file text with
  | (files, .ok ()) =>
    ({ s with files }.note [.savedResponse file]).enter task (.ended (.saved file))
  | (files, .error fault) => { s with files }.enter task (.ended (.failed (.io fault)))

def advanceFrom (s : Session) (task : Nat) : Phase → Session
  | .editing change => s.makeEdit task change
  | .choosing key =>
    match s.form.presetEdit key with
    | .ok change => s.makeEdit task change
    | .error error => s.enter task (.ended (.failed error))
  | .uploadSubmitted input => s.enter task (.uploadComposed (s.form.uploadRequest input))
  | .uploadComposed request =>
    { s with form := s.form.showMessage uploadingMessage }.enter task (.uploadAnnounced request)
  | .uploadAnnounced request =>
    let file := request.input.file
    ((s.note [.uploading file.fileName file.bytes.length request.endpoint]).call task
      (.upload request)).enter task (.uploadWaiting request)
  | .uploadWaiting _ => s
  | .uploadAnswered _ reply =>
    { s with form := s.form.showMessage (renderUpload reply) }.enter task
      (.ended (.rendered (renderUpload reply)))
  | .statusAsked contentId =>
    { s with form := s.form.noteContentId contentId }.enter task
      (.statusComposed (s.form.statusRequest contentId))
  | .statusComposed request =>
    ((s.note [.requestingStatus request.url]).call task (.status request)).enter task
      (.statusWaiting request)
  | .statusWaiting _ => s
  | .statusAnswered request reply =>
    { s with form := s.form.showResponse request.contentId (renderStatus reply) }.enter task
      (.ended (.rendered (renderStatus reply)))
  | .downloadAsked directory =>
    s.enter task (.downloadRead directory s.form.display.responseArea)
  | .downloadRead directory text =>
    s.enter task (.downloadNamed (directory.join (Path.ofString s.form.downloadName)) text)
  | .downloadNamed file text => s.save task file text
  | .ended _ => s

/-- What the log tells of a reply: nothing, unless it is an error. -/
def failureEvents (event : Error → LogEvent) : Reply → List LogEvent
  | .ok _ => []
  | .error error => [event error]

def answerFrom (s : Session) (task : Nat) (reply : Reply) : Phase → Session
  | .uploadWaiting request =>
    (s.note (failureEvents (.uploadFailed request.input.file.fileName) reply)).enter task
      (.uploadAnswered request reply)
  | .statusWaiting request =>
    (s.note (failureEvents (.statusFailed request.url) reply)).enter task
      (.statusAnswered request reply)
  | _ => s

def step (s : Session) : Step → Session
  | .start task operation =>
    match s.tasks task with
    | none => { s.enter task operation.firstPhase with next := max s.next (task + 1) }
    | some _ => s
  | .advance task =>
    match s.tasks task with
    | none => s
    | some phase => s.advanceFrom task phase
  | .answer task reply =>
    match s.tasks task with
    | none => s
    | some phase => s.answerFrom task reply phase

def run (s : Session) (steps : List Step) : Session :=
  steps.foldl step s

def ofForm (form : Form) (files : FileTree) : Session where
  form := form
  files := files

def pending? (s : Session) (task : Nat) : Option Call :=
  match s.tasks task with
  | some (.uploadWaiting request) => some (.upload request)
  | some (.statusWaiting request) => some (.status request)
  | _ => none

def outcome? (s : Session) (task : Nat) : Option Outcome :=
  match s.tasks task with
  | some (.ended outcome) => some outcome
  | _ => none

/-! ## One operation after the other

Each of these starts a task and brings it to its end before anything else happens.
-/

variable {σ : Type}

/-- Starts a task and lets it go on until it waits or ends. -/
def spawn (s : Session) (operation : Operation) : Nat × Session :=
  let task := s.next
  (task, s.run [.start task operation, .advance task, .advance task, .advance task])

def release (s : Session) (task : Nat) (served : Served) : Session :=
  (s.note served.events).run [.answer task served.reply, .advance task]

def edit (s : Session) (change : Edit) : Session :=
  (s.spawn (.edit change)).2

def selectPreset (s : Session) (key : String) : Except Error Unit × Session :=
  ((s.form.presetEdit key).map fun _ ↦ (), (s.spawn (.selectPreset key)).2)

def submitUpload (api : Api σ) (s : Session) (input : UploadInput) (w : σ) :
    String × Session × σ :=
  let (task, waiting) := s.spawn (.upload input)
  let (served, w) := api (.upload (s.form.uploadRequest input)) w
  (renderUpload served.reply, waiting.release task served, w)

def requestStatus (api : Api σ) (s : Session) (contentId : String) (w : σ) :
    String × Session × σ :=
  let (task, waiting) := s.spawn (.status contentId)
  let (served, w) := api (.status (s.form.statusRequest contentId)) w
  (renderStatus served.reply, waiting.release task served, w)

def download (s : Session) (directory : Path) : Except Error Path × Session :=
  let file := directory.join (Path.ofString s.form.downloadName)
  let result := (s.files.writeText file s.form.display.responseArea).2
  ((result.map fun _ ↦ file).mapError .io, (s.spawn (.download directory)).2)

end Session

end DealForm
