import DealForm.Form.Session

/-!
# What a step does

A step of a run either fits the phase of its task, and then the task does one thing, or it changes
nothing. The things that a task can do are listed here together with what each leaves behind.
What is shown of runs rests on this list and not on the steps themselves.
-/

namespace DealForm

/-- One thing that a task does in one step. -/
inductive Act where
  | start (operation : Operation)
  | edit (change : Edit)
  | refuse (error : Error)
  | compose (request : UploadRequest)
  | announce (request : UploadRequest)
  | ask (request : StatusRequest)
  | call (c : Call)
  | answer (c : Call) (reply : Reply)
  | showUpload (request : UploadRequest) (reply : Reply)
  | showStatus (request : StatusRequest) (reply : Reply)
  | readResponse (directory : Path) (text : String)
  | nameFile (directory : Path) (name text : String)
  | save (file : Path) (text : String) (result : Except FileFault Unit)

namespace Act

def phase : Act → Phase
  | start operation => operation.firstPhase
  | edit _ => .ended .edited
  | refuse error => .ended (.failed error)
  | compose request => .uploadComposed request
  | announce request => .uploadAnnounced request
  | ask request => .statusComposed request
  | call (.upload request) => .uploadWaiting request
  | call (.status request) => .statusWaiting request
  | answer (.upload request) reply => .uploadAnswered request reply
  | answer (.status request) reply => .statusAnswered request reply
  | showUpload _ reply => .ended (.rendered (renderUpload reply))
  | showStatus _ reply => .ended (.rendered (renderStatus reply))
  | readResponse directory text => .downloadRead directory text
  | nameFile directory name text => .downloadNamed (directory.join (Path.ofString name)) text
  | save file _ (.ok ()) => .ended (.saved file)
  | save _ _ (.error fault) => .ended (.failed (.io fault))

def onForm : Act → Form → Form
  | edit change, f => f.edit change
  | announce _, f => f.showMessage uploadingMessage
  | ask request, f => f.noteContentId request.contentId
  | showUpload _ reply, f => f.showMessage (renderUpload reply)
  | showStatus request reply, f => f.showResponse request.contentId (renderStatus reply)
  | _, f => f

def onFiles : Act → FileTree → FileTree
  | save file text _, files => (files.writeText file text).1
  | _, files => files

def calls : Act → List Call
  | call c => [c]
  | _ => []

end Act

def Step.task : Step → Nat
  | start task _ => task
  | advance task => task
  | answer task _ => task

namespace Session

def actFrom (s : Session) : Phase → Option Act
  | .editing change => some (.edit change)
  | .choosing key =>
    match s.form.presetEdit key with
    | .ok change => some (.edit change)
    | .error error => some (.refuse error)
  | .uploadSubmitted input => some (.compose (s.form.uploadRequest input))
  | .uploadComposed request => some (.announce request)
  | .uploadAnnounced request => some (.call (.upload request))
  | .uploadWaiting _ => none
  | .uploadAnswered request reply => some (.showUpload request reply)
  | .statusAsked contentId => some (.ask (s.form.statusRequest contentId))
  | .statusComposed request => some (.call (.status request))
  | .statusWaiting _ => none
  | .statusAnswered request reply => some (.showStatus request reply)
  | .downloadAsked directory => some (.readResponse directory s.form.display.responseArea)
  | .downloadRead directory text => some (.nameFile directory s.form.downloadName text)
  | .downloadNamed file text => some (.save file text (s.files.writeText file text).2)
  | .ended _ => none

def actOnReply (reply : Reply) : Phase → Option Act
  | .uploadWaiting request => some (.answer (.upload request) reply)
  | .statusWaiting request => some (.answer (.status request) reply)
  | _ => none

/-- What a step makes its task do, if the step fits the task's phase. -/
def act? (s : Session) : Step → Option Act
  | .start task operation =>
    match s.tasks task with
    | none => some (.start operation)
    | some _ => none
  | .advance task => (s.tasks task).bind s.actFrom
  | .answer task reply => (s.tasks task).bind (actOnReply reply)

/-- The session `t` is what an act of a task leaves of `s`. -/
structure Performs (s : Session) (task : Nat) (a : Act) (t : Session) : Prop where
  form : t.form = a.onForm s.form
  files : t.files = a.onFiles s.files
  calls : t.calls = s.calls ++ a.calls.map (Prod.mk task)
  tasks_self : t.tasks task = some a.phase
  tasks_other : ∀ other, other ≠ task → t.tasks other = s.tasks other

theorem enter_tasks_self (s : Session) (task : Nat) (phase : Phase) :
    (s.enter task phase).tasks task = some phase := if_pos rfl

theorem enter_tasks_other (s : Session) {task other : Nat} (phase : Phase) (h : other ≠ task) :
    (s.enter task phase).tasks other = s.tasks other := if_neg h

theorem performs_enter {s t : Session} {task : Nat} {a : Act} (hform : t.form = a.onForm s.form)
    (hfiles : t.files = a.onFiles s.files)
    (hcalls : t.calls = s.calls ++ a.calls.map (Prod.mk task)) (htasks : t.tasks = s.tasks) :
    s.Performs task a (t.enter task a.phase) where
  form := hform
  files := hfiles
  calls := hcalls
  tasks_self := t.enter_tasks_self task a.phase
  tasks_other other h := (t.enter_tasks_other a.phase h).trans (congrFun htasks other)

theorem performs_save (s : Session) (task : Nat) (file : Path) (text : String) :
    s.Performs task (.save file text (s.files.writeText file text).2) (s.save task file text) := by
  unfold save
  split
  · next files heq =>
    rw [heq]
    exact performs_enter rfl (by simp [Act.onFiles, heq, note]) (List.append_nil _).symm rfl
  · next files fault heq =>
    rw [heq]
    exact performs_enter rfl (by simp [Act.onFiles, heq]) (List.append_nil _).symm rfl

theorem performs_makeEdit (s : Session) (task : Nat) (change : Edit) :
    s.Performs task (.edit change) (s.makeEdit task change) :=
  performs_enter rfl rfl (List.append_nil _).symm rfl

theorem performs_advanceFrom {s : Session} {task : Nat} {p : Phase} {a : Act}
    (h : s.actFrom p = some a) : s.Performs task a (s.advanceFrom task p) := by
  cases p with
  | editing change =>
      cases h
      exact s.performs_makeEdit task change
  | choosing key =>
      cases hpreset : s.form.presetEdit key with
      | ok change =>
          simp only [actFrom, hpreset] at h
          cases h
          simp only [advanceFrom, hpreset]
          exact s.performs_makeEdit task change
      | error error =>
          simp only [actFrom, hpreset] at h
          cases h
          simp only [advanceFrom, hpreset]
          exact performs_enter rfl rfl (List.append_nil _).symm rfl
  | downloadNamed file text =>
      cases h
      exact s.performs_save task file text
  | uploadWaiting | statusWaiting | ended => cases h
  | uploadSubmitted | uploadComposed | uploadAnswered | statusAsked | statusAnswered
  | downloadAsked | downloadRead =>
      cases h
      exact performs_enter rfl rfl (List.append_nil _).symm rfl
  | uploadAnnounced | statusComposed =>
      cases h
      exact performs_enter rfl rfl rfl rfl

theorem performs_answerFrom {s : Session} {task : Nat} {p : Phase} {reply : Reply} {a : Act}
    (h : actOnReply reply p = some a) : s.Performs task a (s.answerFrom task reply p) := by
  cases p with
  | uploadWaiting | statusWaiting =>
      cases h
      exact performs_enter rfl rfl (List.append_nil _).symm rfl
  | _ => cases h

theorem performs_step {s : Session} {x : Step} {a : Act} (h : s.act? x = some a) :
    s.Performs x.task a (s.step x) := by
  cases x with
  | start task operation =>
      simp only [act?] at h
      split at h <;> cases h
      next heq =>
      simp only [step, heq]
      exact performs_enter (t := { s with next := max s.next (task + 1) }) rfl rfl
        (List.append_nil _).symm rfl
  | advance task =>
      obtain ⟨p, hp, hact⟩ := Option.bind_eq_some_iff.mp h
      simp only [step, hp]
      exact performs_advanceFrom hact
  | answer task reply =>
      obtain ⟨p, hp, hact⟩ := Option.bind_eq_some_iff.mp h
      simp only [step, hp]
      exact performs_answerFrom hact

theorem step_of_act?_eq_none {s : Session} {x : Step} (h : s.act? x = none) : s.step x = s := by
  cases x with
  | start task operation =>
      simp only [act?] at h
      split at h <;> simp_all [step]
  | advance task =>
      cases hp : s.tasks task with
      | none => simp [step, hp]
      | some p =>
          simp only [act?, hp, Option.bind_some] at h
          simp only [step, hp]
          cases p with
          | choosing key =>
              simp only [actFrom] at h
              split at h <;> cases h
          | uploadWaiting | statusWaiting | ended => rfl
          | _ => cases h
  | answer task reply =>
      cases hp : s.tasks task with
      | none => simp [step, hp]
      | some p =>
          simp only [act?, hp, Option.bind_some] at h
          simp only [step, hp]
          cases p with
          | uploadWaiting | statusWaiting => cases h
          | _ => rfl

/-- What an act carries is what the session held at that step. -/
def Reads (s : Session) : Act → Prop
  | .compose r => r = s.form.uploadRequest r.input
  | .ask r => r = s.form.statusRequest r.contentId
  | .readResponse _ text => text = s.form.display.responseArea
  | .nameFile _ name _ => name = s.form.downloadName
  | .save file text result => result = (s.files.writeText file text).2
  | _ => True

theorem reads_of_act? {s : Session} {x : Step} {a : Act} (h : s.act? x = some a) : s.Reads a := by
  cases x with
  | start task operation =>
      simp only [act?] at h
      split at h <;> cases h
      trivial
  | advance task =>
      obtain ⟨p, -, hact⟩ := Option.bind_eq_some_iff.mp h
      cases p with
      | choosing key =>
          simp only [actFrom] at hact
          split at hact <;> cases hact <;> trivial
      | uploadWaiting | statusWaiting | ended => cases hact
      | _ =>
          cases hact
          trivial
  | answer task reply =>
      obtain ⟨p, -, hact⟩ := Option.bind_eq_some_iff.mp h
      cases p with
      | uploadWaiting | statusWaiting =>
          cases hact
          trivial
      | _ => cases hact

end Session

end DealForm
