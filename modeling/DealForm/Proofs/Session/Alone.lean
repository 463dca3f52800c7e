import DealForm.Proofs.Session.History

/-!
# One operation after the other

The next number for a task is always free. So an operation that is run by itself starts a task of
its own and goes through its acts undisturbed, whatever other tasks wait for; it leaves what these
acts leave.
-/

namespace DealForm.Session

variable {σ : Type} {s t u : Session} {task : Nat} {a b : Act} {x : Step} {form form' : Form}
  {files files' : FileTree} {calls calls' : List (Nat × Call)}

/-! ## Free numbers -/

/-- No task has a number from the next one on. -/
def IsNumbered (s : Session) : Prop :=
  ∀ task, s.next ≤ task → s.tasks task = none

theorem isNumbered_ofForm (form : Form) (files : FileTree) : (ofForm form files).IsNumbered := by
  intro task _
  rfl

theorem next_save (s : Session) (task : Nat) (file : Path) (text : String) :
    (s.save task file text).next = s.next := by
  unfold save
  split <;> rfl

theorem next_advanceFrom (s : Session) (task : Nat) (p : Phase) :
    (s.advanceFrom task p).next = s.next := by
  cases p with
  | choosing key =>
      simp only [advanceFrom]
      split <;> rfl
  | downloadNamed file text => exact s.next_save task file text
  | _ => rfl

theorem next_answerFrom (s : Session) (task : Nat) (reply : Reply) (p : Phase) :
    (s.answerFrom task reply p).next = s.next := by
  cases p <;> rfl

theorem next_le_step (s : Session) (x : Step) : s.next ≤ (s.step x).next := by
  cases x with
  | start task operation =>
      simp only [step]
      split
      · exact Nat.le_max_left _ _
      · exact Nat.le_refl _
  | advance task =>
      simp only [step]
      split
      · exact Nat.le_refl _
      · exact (s.next_advanceFrom task _).ge
  | answer task reply =>
      simp only [step]
      split
      · exact Nat.le_refl _
      · exact (s.next_answerFrom task reply _).ge

theorem IsNumbered.lt_next (h : s.IsNumbered) {p : Phase} (hp : s.tasks task = some p) :
    task < s.next := by
  by_contra hle
  rw [h task (Nat.le_of_not_lt hle)] at hp
  cases hp

theorem IsNumbered.task_lt_next_step (h : s.IsNumbered) (hact : s.act? x = some a) :
    x.task < (s.step x).next := by
  cases x with
  | start task operation =>
      simp only [act?] at hact
      split at hact
      · next hfree =>
        simp only [step, hfree]
        exact Nat.le_max_right _ _
      · cases hact
  | advance task | answer task =>
      obtain ⟨p, hp, -⟩ := Option.bind_eq_some_iff.mp hact
      exact (h.lt_next hp).trans_le (s.next_le_step _)

theorem IsNumbered.step (h : s.IsNumbered) (x : Step) : (s.step x).IsNumbered := by
  cases hact : s.act? x with
  | none =>
      rw [step_of_act?_eq_none hact]
      exact h
  | some a =>
      intro other hother
      have hne : other ≠ x.task := by
        rintro rfl
        exact absurd (h.task_lt_next_step hact) (Nat.not_lt.mpr hother)
      rw [(performs_step hact).tasks_other other hne]
      exact h other ((s.next_le_step x).trans hother)

theorem IsNumbered.run (h : s.IsNumbered) (steps : List Step) : (s.run steps).IsNumbered := by
  induction steps generalizing s with
  | nil => exact h
  | cons x steps ih => exact ih (h.step x)

theorem IsNumbered.note (h : s.IsNumbered) (events : List LogEvent) :
    (s.note events).IsNumbered := h

/-! ## Undisturbed acts -/

theorem performs_start (h : s.tasks task = none) (operation : Operation) :
    s.Performs task (.start operation) (s.step (.start task operation)) := by
  have hact : s.act? (.start task operation) = some (.start operation) := by simp [act?, h]
  exact performs_step hact

theorem Performs.advance (h : s.Performs task a t) (hb : t.actFrom a.phase = some b) :
    t.Performs task b (t.step (.advance task)) := by
  have hact : t.act? (.advance task) = some b := by simp [act?, h.tasks_self, hb]
  exact performs_step hact

theorem Performs.answer (h : s.Performs task a t) (reply : Reply)
    (hb : actOnReply reply a.phase = some b) : t.Performs task b (t.step (.answer task reply)) := by
  have hact : t.act? (.answer task reply) = some b := by simp [act?, h.tasks_self, hb]
  exact performs_step hact

theorem Performs.stays (h : s.Performs task a t) (hnone : t.actFrom a.phase = none) :
    t.step (.advance task) = t := by
  apply step_of_act?_eq_none
  simp [act?, h.tasks_self, hnone]

theorem Performs.note (h : s.Performs task a t) (events : List LogEvent) :
    s.Performs task a (t.note events) :=
  ⟨h.form, h.files, h.calls, h.tasks_self, h.tasks_other⟩

/-! ## What an operation leaves -/

/-- After `s` the session `t` holds this form and these files, and these calls were added. -/
structure Leaves (s t : Session) (form : Form) (files : FileTree) (calls : List (Nat × Call)) :
    Prop where
  isNumbered : t.IsNumbered
  form : t.form = form
  files : t.files = files
  calls : t.calls = s.calls ++ calls

theorem Leaves.refl (h : s.IsNumbered) : s.Leaves s s.form s.files [] :=
  ⟨h, rfl, rfl, (List.append_nil _).symm⟩

theorem Leaves.trans (h : s.Leaves t form files calls) (h' : t.Leaves u form' files' calls') :
    s.Leaves u form' files' (calls ++ calls') where
  isNumbered := h'.isNumbered
  form := h'.form
  files := h'.files
  calls := by rw [h'.calls, h.calls, List.append_assoc]

theorem Leaves.note (h : s.Leaves t form files calls) (events : List LogEvent) :
    s.Leaves (t.note events) form files calls :=
  ⟨h.isNumbered, h.form, h.files, h.calls⟩

/-- From `s` to `t` the task goes through these acts, and no other task does anything. -/
inductive Goes (task : Nat) : Session → List Act → Session → Prop
  | nil (s : Session) : Goes task s [] s
  | cons {s t u : Session} {a : Act} {acts : List Act} (h : s.Performs task a t)
      (rest : Goes task t acts u) : Goes task s (a :: acts) u

theorem Goes.leaves {acts : List Act} (h : Goes task s acts t) (ht : t.IsNumbered) :
    s.Leaves t (acts.foldl (fun f a ↦ a.onForm f) s.form)
      (acts.foldl (fun files a ↦ a.onFiles files) s.files)
      ((acts.flatMap Act.calls).map (Prod.mk task)) := by
  induction h with
  | nil s => exact .refl ht
  | @cons s t u a acts hperf _ ih =>
      have hrest := ih ht
      rw [hperf.form, hperf.files] at hrest
      refine ⟨ht, hrest.form, hrest.files, ?_⟩
      rw [hrest.calls, hperf.calls, List.flatMap_cons, List.map_append, List.append_assoc]

theorem spawn_eq (s : Session) (operation : Operation) :
    (s.spawn operation).2 = (((s.step (.start s.next operation)).step (.advance s.next)).step
      (.advance s.next)).step (.advance s.next) := rfl

theorem release_eq (s : Session) (task : Nat) (served : Served) :
    s.release task served =
      ((s.note served.events).step (.answer task served.reply)).step (.advance task) := rfl

theorem IsNumbered.spawn (h : s.IsNumbered) (operation : Operation) :
    (s.spawn operation).2.IsNumbered := h.run _

theorem IsNumbered.release (h : s.IsNumbered) (task : Nat) (served : Served) :
    (s.release task served).IsNumbered := (h.note served.events).run _

theorem leaves_edit (h : s.IsNumbered) (change : Edit) :
    s.Leaves (s.edit change) (s.form.edit change) s.files [] := by
  have hstart := performs_start (h s.next le_rfl) (.edit change)
  have hedit := hstart.advance (b := .edit change) rfl
  have hstays := hedit.stays rfl
  rw [edit, spawn_eq, hstays, hstays]
  exact (Goes.cons hstart (.cons hedit (.nil _))).leaves ((h.step _).step _)

/-- The choice of a preset is the edit that it means, or an error that changes nothing. -/
theorem leaves_selectPreset (h : s.IsNumbered) (key : String) :
    match s.form.presetEdit key with
    | .ok change => (s.selectPreset key).1 = .ok () ∧
        s.Leaves (s.selectPreset key).2 (s.form.edit change) s.files []
    | .error error => (s.selectPreset key).1 = .error error ∧
        s.Leaves (s.selectPreset key).2 s.form s.files [] := by
  have hstart := performs_start (h s.next le_rfl) (.selectPreset key)
  have hform : (s.step (.start s.next (.selectPreset key))).form = s.form := hstart.form
  cases hpreset : s.form.presetEdit key with
  | ok change =>
      have hedit := hstart.advance (b := .edit change) (by
        simp only [Act.phase, Operation.firstPhase, actFrom, hform, hpreset])
      have hstays := hedit.stays rfl
      simp only [selectPreset, hpreset, spawn_eq, hstays]
      exact ⟨rfl, (Goes.cons hstart (.cons hedit (.nil _))).leaves ((h.step _).step _)⟩
  | error error =>
      have hrefuse := hstart.advance (b := .refuse error) (by
        simp only [Act.phase, Operation.firstPhase, actFrom, hform, hpreset])
      have hstays := hrefuse.stays rfl
      simp only [selectPreset, hpreset, spawn_eq, hstays]
      exact ⟨rfl, (Goes.cons hstart (.cons hrefuse (.nil _))).leaves ((h.step _).step _)⟩

/-- An upload makes its one call with the values of the form and shows what the reply renders
to. -/
theorem leaves_submitUpload (h : s.IsNumbered) (api : Api σ) (input : UploadInput) (w : σ) :
    let c := Call.upload (s.form.uploadRequest input)
    let text := renderUpload (api c w).1.reply
    ∃ t, s.submitUpload api input w = (text, t, (api c w).2) ∧
      s.Leaves t (s.form.showMessage text) s.files [(s.next, c)] := by
  intro c text
  have hstart := performs_start (h s.next le_rfl) (.upload input)
  have hform : (s.step (.start s.next (.upload input))).form = s.form := hstart.form
  have hcompose := hstart.advance (b := .compose (s.form.uploadRequest input)) (by
    simp only [Act.phase, Operation.firstPhase, actFrom, hform])
  have hannounce := hcompose.advance (b := .announce (s.form.uploadRequest input)) rfl
  have hcall := (hannounce.advance (b := .call c) rfl).note (api c w).1.events
  have hanswer := hcall.answer (api c w).1.reply rfl
  have hshow := hanswer.advance rfl
  have hgoes := Goes.cons hstart (.cons hcompose (.cons hannounce (.cons hcall
    (.cons hanswer (.cons hshow (.nil _))))))
  have hend := (h.spawn (.upload input)).release s.next (api c w).1
  exact ⟨(s.spawn (.upload input)).2.release s.next (api c w).1, rfl, hgoes.leaves hend⟩

/-- A lookup makes its one call with the values of the form and shows what the reply renders to. -/
theorem leaves_requestStatus (h : s.IsNumbered) (api : Api σ) (contentId : String) (w : σ) :
    let c := Call.status (s.form.statusRequest contentId)
    let text := renderStatus (api c w).1.reply
    ∃ t, s.requestStatus api contentId w = (text, t, (api c w).2) ∧
      s.Leaves t ((s.form.noteContentId contentId).showResponse contentId text) s.files
        [(s.next, c)] := by
  intro c text
  have hstart := performs_start (h s.next le_rfl) (.status contentId)
  have hform : (s.step (.start s.next (.status contentId))).form = s.form := hstart.form
  have hask := hstart.advance (b := .ask (s.form.statusRequest contentId)) (by
    simp only [Act.phase, Operation.firstPhase, actFrom, hform])
  have hcalled := hask.advance (b := .call c) rfl
  -- The task waits after two advances, so the third one changes nothing.
  have hstays := hcalled.stays rfl
  have hcall := hcalled.note (api c w).1.events
  have hanswer := hcall.answer (api c w).1.reply rfl
  have hshow := hanswer.advance rfl
  have hgoes := Goes.cons hstart (.cons hask (.cons hcall (.cons hanswer (.cons hshow (.nil _)))))
  have hend := (h.spawn (.status contentId)).release s.next (api c w).1
  refine ⟨(s.spawn (.status contentId)).2.release s.next (api c w).1, rfl, ?_⟩
  rw [release_eq, spawn_eq, hstays] at hend ⊢
  exact hgoes.leaves hend

/-- A download writes the text that is shown to its file and leaves the form as it is. -/
theorem leaves_download (h : s.IsNumbered) (directory : Path) :
    let file := directory.join (Path.ofString s.form.downloadName)
    let written := s.files.writeText file s.form.display.responseArea
    (s.download directory).1 = (written.2.map fun _ ↦ file).mapError .io ∧
      s.Leaves (s.download directory).2 s.form written.1 [] := by
  intro file written
  have hstart := performs_start (h s.next le_rfl) (.download directory)
  have hform : (s.step (.start s.next (.download directory))).form = s.form := hstart.form
  have hread := hstart.advance (b := .readResponse directory s.form.display.responseArea) (by
    simp only [Act.phase, Operation.firstPhase, actFrom, hform])
  have hform := hread.form.trans hform
  have hname := hread.advance
    (b := .nameFile directory s.form.downloadName s.form.display.responseArea) (by
      simp only [Act.phase, actFrom, hform])
  have hsave := hname.advance rfl
  have hgoes := Goes.cons hstart (.cons hread (.cons hname (.cons hsave (.nil _))))
  exact ⟨rfl, hgoes.leaves (h.spawn (.download directory))⟩

end DealForm.Session
