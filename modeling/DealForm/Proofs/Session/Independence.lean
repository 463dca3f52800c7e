import DealForm.Proofs.Session.Script

/-!
# Uploads and lookups side by side

What a task does can be left out of a run if the other tasks do not look at it. A side of the work
says which operations are left out and what the rest of the work looks at; a run without the tasks
of those operations then goes as before, seen from the rest. Uploads are such a side, and so are
the lookups together with what is done to the response area.
-/

namespace DealForm

/-- An act that belongs to the work of a task which was started for an operation. -/
inductive Act.IsFor : Operation → Act → Prop
  | start (operation : Operation) : IsFor operation (start operation)
  | edit (change : Edit) : IsFor (.edit change) (edit change)
  | select (key url : String) : IsFor (.selectPreset key) (edit (.selectBaseUrl url))
  | refuse (key : String) (error : Error) : IsFor (.selectPreset key) (refuse error)
  | compose (r : UploadRequest) : IsFor (.upload r.input) (compose r)
  | announce (r : UploadRequest) : IsFor (.upload r.input) (announce r)
  | callUpload (r : UploadRequest) : IsFor (.upload r.input) (call (.upload r))
  | answerUpload (r : UploadRequest) (reply : Reply) :
      IsFor (.upload r.input) (answer (.upload r) reply)
  | showUpload (r : UploadRequest) (reply : Reply) : IsFor (.upload r.input) (showUpload r reply)
  | ask (r : StatusRequest) : IsFor (.status r.contentId) (ask r)
  | callStatus (r : StatusRequest) : IsFor (.status r.contentId) (call (.status r))
  | answerStatus (r : StatusRequest) (reply : Reply) :
      IsFor (.status r.contentId) (answer (.status r) reply)
  | showStatus (r : StatusRequest) (reply : Reply) :
      IsFor (.status r.contentId) (showStatus r reply)
  | readResponse (directory : Path) (text : String) :
      IsFor (.download directory) (readResponse directory text)
  | nameFile (directory : Path) (name text : String) :
      IsFor (.download directory) (nameFile directory name text)
  | save (directory : Path) (name text : String) (result : Except FileFault Unit) :
      IsFor (.download directory) (save (directory.join (Path.ofString name)) text result)

theorem Act.IsFor.of_precedes {o : Operation} {a b : Act} (ha : a.IsFor o)
    (h : a.Precedes b) : b.IsFor o := by
  cases h with
  | answer c reply =>
      cases ha with
      | callUpload r => exact .answerUpload r reply
      | callStatus r => exact .answerStatus r reply
  | _ =>
      cases ha
      constructor

/-- The operation that a task is started for. Only its first start counts. -/
def startedFor? (steps : List Step) (task : Nat) : Option Operation :=
  steps.findSome? fun
    | .start other operation => if other = task then some operation else none
    | _ => none

theorem startedFor?_eq_none {steps : List Step} {task : Nat}
    (h : ∀ o, .start task o ∉ steps) : startedFor? steps task = none := by
  apply List.findSome?_eq_none_iff.mpr
  intro x hx
  cases x with
  | start other o =>
      have hother : other ≠ task := by
        rintro rfl
        exact h o hx
      simp [hother]
  | advance | answer => rfl

namespace Session

variable {s : Session} {steps : List Step} {x : Step} {k task : Nat} {a : Act} {o : Operation}

/-- Every act of a task belongs to the operation that the task was started for. -/
theorem Does.isFor (hnew : s.tasks task = none) (h : s.Does steps k task a) :
    ∃ i o, s.Does steps i task (.start o) ∧ a.IsFor o := by
  induction k using Nat.strong_induction_on generalizing a with
  | _ k ih =>
      rcases h.preceded hnew with ⟨o, rfl⟩ | ⟨j, b, hj, hb, hprecedes⟩
      · exact ⟨k, o, h, .start o⟩
      · obtain ⟨i, o, hstart, hfor⟩ := ih j hj hb
        exact ⟨i, o, hstart, hfor.of_precedes hprecedes⟩

theorem tasks_step_ne_none (x : Step) (h : s.tasks task ≠ none) :
    (s.step x).tasks task ≠ none := by
  cases hx : s.act? x with
  | none => rwa [step_of_act?_eq_none hx]
  | some a =>
      by_cases htask : task = x.task
      · simp [htask, (performs_step hx).tasks_self]
      · rwa [(performs_step hx).tasks_other task htask]

theorem tasks_step_start_ne_none (s : Session) (task : Nat) (o : Operation) :
    (s.step (.start task o)).tasks task ≠ none := by
  cases htask : s.tasks task with
  | none =>
      have hx : s.act? (.start task o) = some (.start o) := by simp [act?, htask]
      have hself := (performs_step hx).tasks_self
      rw [Step.task] at hself
      simp [hself]
  | some p => exact tasks_step_ne_none _ (by simp [htask])

theorem tasks_run_ne_none (h : .start task o ∈ steps) : (s.run steps).tasks task ≠ none := by
  induction steps using List.reverseRecOn with
  | nil => cases h
  | append_singleton steps x ih =>
      rw [run_concat]
      rcases List.mem_append.mp h with h | h
      · exact tasks_step_ne_none x (ih h)
      · obtain rfl := List.mem_singleton.mp h
        exact tasks_step_start_ne_none _ task o

theorem eq_start_of_act? (h : s.act? x = some (.start o)) :
    x = .start x.task o ∧ s.tasks x.task = none := by
  cases x with
  | start task o' =>
      cases htask : s.tasks task with
      | none =>
          simp only [act?, htask, Option.some.injEq, Act.start.injEq] at h
          exact ⟨by rw [Step.task, h], htask⟩
      | some p => simp [act?, htask] at h
  | advance task =>
      obtain ⟨p, -, hact⟩ := Option.bind_eq_some_iff.mp h
      cases p with
      | choosing key =>
          simp only [actFrom] at hact
          split at hact <;> cases hact
      | _ => cases hact
  | answer task reply =>
      obtain ⟨p, -, hact⟩ := Option.bind_eq_some_iff.mp h
      cases p <;> cases hact

/-- The start of a task that counts is the one in its steps. -/
theorem Does.startedFor (h : s.Does steps k task (.start o)) :
    startedFor? steps task = some o := by
  obtain ⟨x, hx, rfl, hact⟩ := h
  obtain ⟨hstart, hnone⟩ := eq_start_of_act? hact
  have hbefore : startedFor? (steps.take k) x.task = none :=
    startedFor?_eq_none fun o' hmem ↦ tasks_run_ne_none hmem hnone
  obtain ⟨hk, hget⟩ := List.getElem?_eq_some_iff.mp hx
  rw [← List.take_append_drop k steps, List.drop_eq_getElem_cons hk, hget, startedFor?,
    List.findSome?_append, ← startedFor?, hbefore, Option.none_or, hstart]
  simp [Step.task]

end Session

/-! ## Leaving one side out -/

/-- A side of the work that can be left out: the operations whose tasks are left out, and what of
the form, of the files and of the calls the other operations work with. -/
structure Side where
  leavesOut : Operation → Bool
  form : Form → Form
  files : FileTree → FileTree
  keeps : Call → Bool
  form_of_left_out {o : Operation} {a : Act} (hout : leavesOut o = true) (hfor : a.IsFor o)
    (f : Form) : form (a.onForm f) = form f
  files_of_left_out {o : Operation} {a : Act} (hout : leavesOut o = true) (hfor : a.IsFor o)
    (t : FileTree) : files (a.onFiles t) = files t
  keeps_of_left_out {o : Operation} {c : Call} (hout : leavesOut o = true)
    (hfor : (Act.call c).IsFor o) : keeps c = false
  form_of_kept {o : Operation} {a : Act} (hkept : leavesOut o = false) (hfor : a.IsFor o)
    (f : Form) : form (a.onForm f) = a.onForm (form f)
  files_of_kept {o : Operation} {a : Act} (hkept : leavesOut o = false) (hfor : a.IsFor o)
    (t : FileTree) : files (a.onFiles t) = a.onFiles (files t)
  actFrom_of_kept {o : Operation} {a : Act} (hkept : leavesOut o = false) (hfor : a.IsFor o)
    (s : Session) : s.actFrom a.phase =
      { s with form := form s.form, files := files s.files }.actFrom a.phase

namespace Side

def omits (side : Side) (steps : List Step) (task : Nat) : Bool :=
  ((startedFor? steps task).map side.leavesOut).getD false

def without (side : Side) (steps : List Step) : List Step :=
  steps.filter fun x ↦ !side.omits steps x.task

def keptCalls (side : Side) (s : Session) : List (Nat × Call) :=
  s.calls.filter fun c ↦ side.keeps c.2

/-- Two sessions look the same from the tasks that are not omitted. -/
structure Agree (side : Side) (omitted : Nat → Bool) (s t : Session) : Prop where
  form : side.form s.form = side.form t.form
  files : side.files s.files = side.files t.files
  calls : side.keptCalls s = side.keptCalls t
  tasks : ∀ task, omitted task = false → s.tasks task = t.tasks task

variable {side : Side} {omitted : Nat → Bool} {s t s' t' : Session} {task : Nat} {a : Act}
  {o : Operation}

theorem actFrom_eq (hkept : side.leavesOut o = false) (hfor : a.IsFor o)
    (h : side.Agree omitted s t) : s.actFrom a.phase = t.actFrom a.phase := by
  rw [side.actFrom_of_kept hkept hfor s, side.actFrom_of_kept hkept hfor t, h.form, h.files]
  cases a.phase <;> rfl

/-- What an omitted task does is not seen. -/
theorem Agree.of_left_out (h : side.Agree omitted s t) (hout : side.leavesOut o = true)
    (hfor : a.IsFor o) (homitted : omitted task = true) (hs : s.Performs task a s') :
    side.Agree omitted s' t where
  form := by rw [hs.form, side.form_of_left_out hout hfor, h.form]
  files := by rw [hs.files, side.files_of_left_out hout hfor, h.files]
  calls := by
    have hnone : (a.calls.map (Prod.mk task)).filter (fun c ↦ side.keeps c.2) = [] := by
      cases a with
      | call c => simp [Act.calls, side.keeps_of_left_out hout hfor]
      | _ => rfl
    rw [← h.calls, keptCalls, hs.calls, List.filter_append, hnone, List.append_nil, keptCalls]
  tasks other hother := by
    have hne : other ≠ task := by
      rintro rfl
      simp [homitted] at hother
    rw [hs.tasks_other other hne, h.tasks other hother]

/-- What another task does is done in both sessions alike. -/
theorem Agree.of_kept (h : side.Agree omitted s t) (hkept : side.leavesOut o = false)
    (hfor : a.IsFor o) (hs : s.Performs task a s') (ht : t.Performs task a t') :
    side.Agree omitted s' t' where
  form := by
    rw [hs.form, ht.form, side.form_of_kept hkept hfor, side.form_of_kept hkept hfor, h.form]
  files := by
    rw [hs.files, ht.files, side.files_of_kept hkept hfor, side.files_of_kept hkept hfor, h.files]
  calls := by
    have hcalls := h.calls
    rw [keptCalls, keptCalls] at hcalls
    rw [keptCalls, keptCalls, hs.calls, ht.calls, List.filter_append, List.filter_append, hcalls]
  tasks other hother := by
    by_cases htask : other = task
    · rw [htask, hs.tasks_self, ht.tasks_self]
    · rw [hs.tasks_other other htask, ht.tasks_other other htask, h.tasks other hother]

theorem act?_eq {steps : List Step} {x : Step} (hnew : ∀ task, s.tasks task = none)
    (homitted : ∀ k task o, s.Does steps k task (.start o) → omitted task = side.leavesOut o)
    (hx : omitted x.task = false) (h : side.Agree omitted (s.run steps) t) :
    (s.run steps).act? x = t.act? x := by
  have htasks := h.tasks x.task hx
  cases x with
  | start task | answer task => simp only [Session.act?, Step.task] at htasks ⊢; rw [htasks]
  | advance task =>
      rw [Step.task] at hx htasks
      rw [Session.act?, Session.act?, ← htasks]
      cases hp : (s.run steps).tasks task with
      | none => rfl
      | some p =>
          obtain ⟨k, a, hd, rfl⟩ := Session.exists_does_of_tasks (hnew task) hp
          obtain ⟨i, o, hstart, hfor⟩ := hd.isFor (hnew task)
          exact actFrom_eq ((homitted i task o hstart).symm.trans hx) hfor h

theorem exists_isFor {steps : List Step} {x : Step} (hnew : ∀ task, s.tasks task = none)
    (homitted : ∀ k task o, s.Does (steps ++ [x]) k task (.start o) →
      omitted task = side.leavesOut o)
    (hx : (s.run steps).act? x = some a) :
    ∃ o, omitted x.task = side.leavesOut o ∧ a.IsFor o := by
  have hd : s.Does (steps ++ [x]) steps.length x.task a :=
    Session.does_concat_iff.mpr (Or.inr ⟨rfl, rfl, hx⟩)
  obtain ⟨i, o, hstart, hfor⟩ := hd.isFor (hnew x.task)
  exact ⟨o, homitted i x.task o hstart, hfor⟩

theorem agree_run (side : Side) (hnew : ∀ task, s.tasks task = none) (steps : List Step)
    (homitted : ∀ k task o, s.Does steps k task (.start o) → omitted task = side.leavesOut o) :
    side.Agree omitted (s.run steps) (s.run (steps.filter fun x ↦ !omitted x.task)) := by
  induction steps using List.reverseRecOn with
  | nil => exact ⟨rfl, rfl, rfl, fun _ _ ↦ rfl⟩
  | append_singleton steps x ih =>
      have hbefore : ∀ k task o, s.Does steps k task (.start o) →
          omitted task = side.leavesOut o :=
        fun k task o hd ↦ homitted k task o (hd.append [x])
      have hagree := ih hbefore
      rw [Session.run_concat, List.filter_append, Session.run_append]
      have hlast : ([x].filter fun y ↦ !omitted y.task) = if omitted x.task then [] else [x] := by
        cases ho : omitted x.task <;> simp [ho]
      rw [hlast]
      cases ho : omitted x.task with
      | true =>
          rw [if_pos rfl]
          change side.Agree omitted ((s.run steps).step x) (s.run _)
          cases hx : (s.run steps).act? x with
          | none => rwa [Session.step_of_act?_eq_none hx]
          | some a =>
              obtain ⟨o, hside, hfor⟩ := exists_isFor hnew homitted hx
              exact hagree.of_left_out (hside.symm.trans ho) hfor ho (Session.performs_step hx)
      | false =>
          rw [if_neg Bool.false_ne_true]
          change side.Agree omitted ((s.run steps).step x) ((s.run _).step x)
          have hsame := act?_eq hnew hbefore ho hagree
          cases hx : (s.run steps).act? x with
          | none =>
              rw [Session.step_of_act?_eq_none hx, Session.step_of_act?_eq_none (hsame ▸ hx)]
              exact hagree
          | some a =>
              obtain ⟨o, hside, hfor⟩ := exists_isFor hnew homitted hx
              exact hagree.of_kept (hside.symm.trans ho) hfor (Session.performs_step hx)
                (Session.performs_step (hsame ▸ hx))

/-- Without the tasks of one side a run goes as before, seen from the other tasks. -/
theorem agree_without (side : Side) (hnew : ∀ task, s.tasks task = none) (steps : List Step) :
    side.Agree (side.omits steps) (s.run steps) (s.run (side.without steps)) := by
  apply side.agree_run hnew steps
  intro k task o hd
  simp [omits, hd.startedFor]

/-! ## The two sides -/

/-- Uploads write the message area, which no other operation looks at. -/
def uploads : Side where
  leavesOut
    | .upload _ => true
    | _ => false
  form f := f.showMessage ""
  files t := t
  keeps
    | .upload _ => false
    | .status _ => true
  form_of_left_out hout hfor f := by
    cases hfor with
    | start | compose | announce | callUpload | answerUpload | showUpload => rfl
    | _ => cases hout
  files_of_left_out hout hfor t := by
    cases hfor with
    | start | compose | announce | callUpload | answerUpload | showUpload => rfl
    | _ => cases hout
  keeps_of_left_out hout hfor := by
    cases hfor with
    | callUpload => rfl
    | callStatus => cases hout
  form_of_kept hkept hfor f := by
    cases hfor with
    | announce | showUpload => cases hkept
    | edit change => cases change <;> rfl
    | _ => rfl
  files_of_kept hkept hfor t := rfl
  actFrom_of_kept {o _} hkept hfor s := by
    cases hfor with
    | start =>
        cases o with
        | upload => cases hkept
        | _ => rfl
    | compose | announce | callUpload | answerUpload | showUpload => cases hkept
    | save directory name text result => cases result <;> rfl
    | _ => rfl

/-- Lookups, downloads and edits of the response area write that area, the identifiers and files.
No other operation looks at them. -/
def lookups : Side where
  leavesOut
    | .status _ => true
    | .download _ => true
    | .edit (.setResponseArea _) => true
    | _ => false
  form f :=
    { f with
      fields := { f.fields with contentId := none }
      display := { messageArea := f.display.messageArea } }
  files _ := ⟨[], []⟩
  keeps
    | .upload _ => true
    | .status _ => false
  form_of_left_out hout hfor f := by
    cases hfor with
    | edit change =>
        cases change with
        | setResponseArea => rfl
        | _ => cases hout
    | announce | showUpload | select => cases hout
    | _ => rfl
  files_of_left_out hout hfor t := rfl
  keeps_of_left_out hout hfor := by
    cases hfor with
    | callUpload => cases hout
    | callStatus => rfl
  form_of_kept hkept hfor f := by
    cases hfor with
    | edit change =>
        cases change with
        | setResponseArea => cases hkept
        | _ => rfl
    | ask | showStatus => cases hkept
    | _ => rfl
  files_of_kept hkept hfor t := by
    cases hfor with
    | save => cases hkept
    | _ => rfl
  actFrom_of_kept {o _} hkept hfor s := by
    cases hfor with
    | start =>
        cases o with
        | status | download => cases hkept
        | _ => rfl
    | readResponse | nameFile | save => cases hkept
    | _ => rfl

end Side

namespace Session

def uploadCalls (s : Session) : List (Nat × UploadRequest) :=
  s.calls.filterMap fun
    | (task, .upload request) => some (task, request)
    | _ => none

def statusCalls (s : Session) : List (Nat × StatusRequest) :=
  s.calls.filterMap fun
    | (task, .status request) => some (task, request)
    | _ => none

theorem statusCalls_eq (s : Session) : s.statusCalls =
    (Side.uploads.keptCalls s).filterMap fun
      | (task, .status request) => some (task, request)
      | _ => none := by
  rw [Side.keptCalls, List.filterMap_filter, statusCalls]
  congr 1
  funext ⟨task, c⟩
  cases c <;> rfl

theorem uploadCalls_eq (s : Session) : s.uploadCalls =
    (Side.lookups.keptCalls s).filterMap fun
      | (task, .upload request) => some (task, request)
      | _ => none := by
  rw [Side.keptCalls, List.filterMap_filter, uploadCalls]
  congr 1
  funext ⟨task, c⟩
  cases c <;> rfl

/-- Uploads and lookups do not meet. A run without its uploads leaves the fields, the response,
the identifier beside it, the files and the lookups asked of the service as they are in the whole
run; a run without its lookups, downloads and edits of the response area so leaves the message
area, the uploads asked of the service and all fields but the identifier. The tasks that stay come
equally far and end alike in both runs. -/
theorem uploads_and_lookups_independent (settings : Settings) (files : FileTree)
    (steps : List Step) :
    let s := fresh settings files
    let whole := s.run steps
    let withoutUploads := s.run (Side.uploads.without steps)
    let withoutLookups := s.run (Side.lookups.without steps)
    (withoutUploads.form.fields = whole.form.fields ∧
        withoutUploads.form.display.responseArea = whole.form.display.responseArea ∧
        withoutUploads.form.display.responseContentId = whole.form.display.responseContentId ∧
        withoutUploads.files = whole.files ∧
        withoutUploads.statusCalls = whole.statusCalls ∧
        ∀ task, Side.uploads.omits steps task = false →
          withoutUploads.tasks task = whole.tasks task) ∧
      (withoutLookups.form.display.messageArea = whole.form.display.messageArea ∧
        { withoutLookups.form.fields with contentId := none } =
          { whole.form.fields with contentId := none } ∧
        withoutLookups.uploadCalls = whole.uploadCalls ∧
        ∀ task, Side.lookups.omits steps task = false →
          withoutLookups.tasks task = whole.tasks task) := by
  intro s whole withoutUploads withoutLookups
  have hnew : ∀ task, s.tasks task = none := fun _ ↦ rfl
  constructor
  · have h := Side.uploads.agree_without hnew steps
    have hdisplay := congrArg Form.display h.form
    refine ⟨(congrArg Form.fields h.form).symm, (congrArg Display.responseArea hdisplay).symm,
      (congrArg Display.responseContentId hdisplay).symm, h.files.symm, ?_,
      fun task htask ↦ (h.tasks task htask).symm⟩
    rw [statusCalls_eq, statusCalls_eq, h.calls]
  · have h := Side.lookups.agree_without hnew steps
    refine ⟨(congrArg (fun f ↦ f.display.messageArea) h.form).symm,
      (congrArg Form.fields h.form).symm, ?_, fun task htask ↦ (h.tasks task htask).symm⟩
    rw [uploadCalls_eq, uploadCalls_eq, h.calls]

example (input : UploadInput) (reply : Reply) :
    Side.uploads.without [.start 0 (.upload input), .start 1 (.status "a"), .advance 0, .advance 1,
        .answer 0 reply, .answer 1 reply] =
      [.start 1 (.status "a"), .advance 1, .answer 1 reply] := rfl

end Session

end DealForm
