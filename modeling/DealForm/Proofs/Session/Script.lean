import DealForm.Proofs.Session.History

/-!
# The acts of one task

Whatever other tasks do in between, the acts of one task follow each other as `Precedes` says, and
each stage is passed once. So an act of a task tells what the task has done before, and no task
does the same twice.
-/

namespace DealForm

/-- The first act of a task is followed by the second one, whatever other tasks do in between. -/
inductive Act.Precedes : Act → Act → Prop
  | edit (change : Edit) : Precedes (start (.edit change)) (edit change)
  | select (key url : String) :
      Precedes (start (.selectPreset key)) (edit (.selectBaseUrl url))
  | refuse (key : String) (error : Error) :
      Precedes (start (.selectPreset key)) (refuse error)
  | compose (r : UploadRequest) : Precedes (start (.upload r.input)) (compose r)
  | announce (r : UploadRequest) : Precedes (compose r) (announce r)
  | callUpload (r : UploadRequest) : Precedes (announce r) (call (.upload r))
  | ask (r : StatusRequest) : Precedes (start (.status r.contentId)) (ask r)
  | callStatus (r : StatusRequest) : Precedes (ask r) (call (.status r))
  | answer (c : Call) (reply : Reply) : Precedes (call c) (answer c reply)
  | showUpload (r : UploadRequest) (reply : Reply) :
      Precedes (answer (.upload r) reply) (showUpload r reply)
  | showStatus (r : StatusRequest) (reply : Reply) :
      Precedes (answer (.status r) reply) (showStatus r reply)
  | readResponse (directory : Path) (text : String) :
      Precedes (start (.download directory)) (readResponse directory text)
  | nameFile (directory : Path) (name text : String) :
      Precedes (readResponse directory text) (nameFile directory name text)
  | save (directory : Path) (name text : String) (result : Except FileFault Unit) :
      Precedes (nameFile directory name text)
        (save (directory.join (Path.ofString name)) text result)

/-- How far a task in this phase has come. A lookup has no placeholder to write and is one stage
ahead of an upload that has read the fields. -/
def Phase.stage : Phase → Nat
  | editing _ | choosing _ | uploadSubmitted _ | statusAsked _ | downloadAsked _ => 1
  | uploadComposed _ | downloadRead _ _ => 2
  | uploadAnnounced _ | statusComposed _ | downloadNamed _ _ => 3
  | uploadWaiting _ | statusWaiting _ => 4
  | uploadAnswered _ _ | statusAnswered _ _ => 5
  | ended _ => 6

namespace Session

variable {s : Session} {steps : List Step} {x : Step} {j k task : Nat} {a b : Act}

def stage (s : Session) (task : Nat) : Nat :=
  ((s.tasks task).map Phase.stage).getD 0

theorem Performs.stage_self {t : Session} (h : s.Performs task a t) :
    t.stage task = a.phase.stage := by
  simp [stage, h.tasks_self]

/-! ## Stages -/

theorem stage_lt_of_act? (h : s.act? x = some a) : s.stage x.task < a.phase.stage := by
  cases x with
  | start task operation =>
      simp only [act?] at h
      split at h <;> cases h
      next heq => cases operation <;> simp [stage, Step.task, heq, Act.phase, Operation.firstPhase,
        Phase.stage]
  | advance task =>
      obtain ⟨p, hp, hact⟩ := Option.bind_eq_some_iff.mp h
      have hstage : s.stage task = p.stage := by simp [stage, hp]
      rw [Step.task, hstage]
      cases p with
      | choosing key =>
          simp only [actFrom] at hact
          split at hact <;> cases hact <;> simp [Act.phase, Phase.stage]
      | downloadNamed file text =>
          cases hact
          cases (s.files.writeText file text).2 <;> simp [Act.phase, Phase.stage]
      | uploadWaiting | statusWaiting | ended => cases hact
      | _ =>
          cases hact
          simp [Act.phase, Phase.stage]
  | answer task reply =>
      obtain ⟨p, hp, hact⟩ := Option.bind_eq_some_iff.mp h
      have hstage : s.stage task = p.stage := by simp [stage, hp]
      rw [Step.task, hstage]
      cases p with
      | uploadWaiting | statusWaiting =>
          cases hact
          simp [Act.phase, Phase.stage]
      | _ => cases hact

theorem stage_le_step (s : Session) (x : Step) (task : Nat) :
    s.stage task ≤ (s.step x).stage task := by
  cases hx : s.act? x with
  | none => rw [step_of_act?_eq_none hx]
  | some a =>
      have hperf := performs_step hx
      by_cases htask : task = x.task
      · rw [htask, hperf.stage_self]
        exact (stage_lt_of_act? hx).le
      · simp [stage, hperf.tasks_other task htask]

theorem stage_upTo_mono (s : Session) (steps : List Step) (task : Nat) (h : j ≤ k) :
    (s.upTo steps j).stage task ≤ (s.upTo steps k).stage task := by
  induction k, h using Nat.le_induction with
  | base => exact le_rfl
  | succ k _ ih =>
      refine ih.trans ?_
      cases hx : steps[k]? with
      | none => simp [upTo, List.take_add_one, hx]
      | some x =>
          rw [s.upTo_succ hx]
          exact stage_le_step _ x task

theorem Does.stage_lt (ha : s.Does steps j task a) (hb : s.Does steps k task b) (h : j < k) :
    a.phase.stage < b.phase.stage := by
  have hmono := s.stage_upTo_mono steps task (Nat.succ_le_of_lt h)
  rw [ha.performs.stage_self] at hmono
  obtain ⟨x, -, rfl, hact⟩ := hb
  exact hmono.trans_lt (stage_lt_of_act? hact)

/-- A task passes each stage once. -/
theorem Does.eq_of_stage_eq (ha : s.Does steps j task a) (hb : s.Does steps k task b)
    (h : a.phase.stage = b.phase.stage) : j = k ∧ a = b := by
  rcases Nat.lt_trichotomy j k with hlt | rfl | hlt
  · exact absurd h (ha.stage_lt hb hlt).ne
  · exact ⟨rfl, (ha.unique hb).2⟩
  · exact absurd h (hb.stage_lt ha hlt).ne'

/-! ## Tasks that ended -/

theorem act?_of_ended {outcome : Outcome} (h : s.tasks x.task = some (.ended outcome)) :
    s.act? x = none := by
  cases x <;> simp_all [act?, Step.task, actFrom, actOnReply]

theorem tasks_step_of_ended {outcome : Outcome} (x : Step)
    (h : s.tasks task = some (.ended outcome)) :
    (s.step x).tasks task = some (.ended outcome) := by
  cases hx : s.act? x with
  | none => rwa [step_of_act?_eq_none hx]
  | some a =>
      have hother : task ≠ x.task := by
        rintro rfl
        rw [act?_of_ended h] at hx
        cases hx
      rwa [(performs_step hx).tasks_other task hother]

theorem tasks_run_of_ended {outcome : Outcome} (steps : List Step)
    (h : s.tasks task = some (.ended outcome)) :
    (s.run steps).tasks task = some (.ended outcome) := by
  induction steps using List.reverseRecOn with
  | nil => exact h
  | append_singleton steps x ih =>
      rw [run_concat]
      exact tasks_step_of_ended x ih

theorem Does.outcome_eq {outcome : Outcome} (h : s.Does steps k task a)
    (ha : a.phase = .ended outcome) : (s.run steps).outcome? task = some outcome := by
  have hended := h.performs.tasks_self
  rw [ha] at hended
  have hrun := tasks_run_of_ended (steps.drop (k + 1)) hended
  rw [← s.run_eq_run_drop] at hrun
  simp [outcome?, hrun]

/-! ## What a task has done before -/

theorem precedes_of_presetEdit {key : String} (h : s.actFrom (.choosing key) = some b) :
    Act.Precedes (.start (.selectPreset key)) b := by
  simp only [actFrom, Form.presetEdit] at h
  cases hpreset : Preset.find? s.form.presets key with
  | none =>
      simp only [hpreset] at h
      cases h
      exact .refuse key _
  | some preset =>
      simp only [hpreset] at h
      cases h
      exact .select key preset.url

theorem precedes_of_actFrom (h : s.actFrom a.phase = some b) : a.Precedes b := by
  cases a with
  | start operation =>
      cases operation with
      | selectPreset key => exact precedes_of_presetEdit h
      | upload input =>
          cases h
          exact .compose (s.form.uploadRequest input)
      | status contentId =>
          cases h
          exact .ask (s.form.statusRequest contentId)
      | edit | download =>
          cases h
          constructor
  | answer c => cases c <;> cases h <;> constructor
  | call c => cases c <;> cases h
  | save file text result => cases result <;> cases h
  | edit | refuse | showUpload | showStatus => cases h
  | compose | announce | ask | readResponse | nameFile =>
      cases h
      constructor

theorem precedes_of_actOnReply {reply : Reply} (h : actOnReply reply a.phase = some b) :
    a.Precedes b := by
  cases a with
  | call c => cases c <;> cases h <;> constructor
  | start operation => cases operation <;> cases h
  | answer c => cases c <;> cases h
  | save file text result => cases result <;> cases h
  | _ => cases h

theorem precedes_of_act? (ha : s.tasks x.task = some a.phase) (hb : s.act? x = some b) :
    a.Precedes b := by
  cases x with
  | start task operation => simp_all [act?, Step.task]
  | advance task =>
      obtain ⟨p, hp, hact⟩ := Option.bind_eq_some_iff.mp hb
      obtain rfl : a.phase = p := Option.some.inj (ha.symm.trans hp)
      exact precedes_of_actFrom hact
  | answer task reply =>
      obtain ⟨p, hp, hact⟩ := Option.bind_eq_some_iff.mp hb
      obtain rfl : a.phase = p := Option.some.inj (ha.symm.trans hp)
      exact precedes_of_actOnReply hact

theorem exists_does_of_tasks {p : Phase} (hnew : s.tasks task = none)
    (h : (s.run steps).tasks task = some p) : ∃ k a, s.Does steps k task a ∧ a.phase = p := by
  induction steps using List.reverseRecOn with
  | nil => simp [run, hnew] at h
  | append_singleton steps x ih =>
      rw [run_concat] at h
      cases hx : (s.run steps).act? x with
      | none =>
          rw [step_of_act?_eq_none hx] at h
          obtain ⟨k, a, hd, ha⟩ := ih h
          exact ⟨k, a, hd.append [x], ha⟩
      | some a =>
          have hperf := performs_step hx
          by_cases htask : task = x.task
          · subst htask
            refine ⟨steps.length, a, does_concat_iff.mpr (Or.inr ⟨rfl, rfl, hx⟩), ?_⟩
            exact Option.some.inj (hperf.tasks_self.symm.trans h)
          · rw [hperf.tasks_other task htask] at h
            obtain ⟨k, a, hd, ha⟩ := ih h
            exact ⟨k, a, hd.append [x], ha⟩

/-- Before an act that is not its first one a task is where another act has left it. -/
theorem Does.exists_before (hnew : s.tasks task = none) (h : s.Does steps k task b) :
    (∃ operation, b = .start operation) ∨
      ∃ j a, j < k ∧ s.Does steps j task a ∧ (s.upTo steps k).tasks task = some a.phase := by
  obtain ⟨x, hx, rfl, hb⟩ := h
  cases hp : (s.upTo steps k).tasks x.task with
  | none =>
      left
      cases x with
      | start task operation =>
          simp only [Step.task] at hp
          simp only [act?, hp, Option.some.injEq] at hb
          exact ⟨operation, hb.symm⟩
      | advance task | answer task =>
          simp only [Step.task] at hp
          simp [act?, hp] at hb
  | some p =>
      right
      obtain ⟨j, a, hd, rfl⟩ := exists_does_of_tasks hnew hp
      obtain ⟨hj, hd⟩ := does_take_iff.mp hd
      exact ⟨j, a, hj, hd, rfl⟩

/-- An act that is not the first one of its task follows another one. -/
theorem Does.preceded (hnew : s.tasks task = none) (h : s.Does steps k task b) :
    (∃ operation, b = .start operation) ∨
      ∃ j a, j < k ∧ s.Does steps j task a ∧ a.Precedes b := by
  rcases h.exists_before hnew with hstart | ⟨j, a, hj, hd, hp⟩
  · exact Or.inl hstart
  · obtain ⟨x, -, rfl, hb⟩ := h
    exact Or.inr ⟨j, a, hj, hd, precedes_of_act? hp hb⟩

theorem Does.of_precedes (hnew : s.tasks task = none) (h : s.Does steps k task b)
    (hprecedes : a.Precedes b) (honly : ∀ c, c.Precedes b → c = a) :
    ∃ j, j < k ∧ s.Does steps j task a := by
  rcases h.preceded hnew with ⟨operation, rfl⟩ | ⟨j, c, hj, hd, hc⟩
  · cases hprecedes
  · exact ⟨j, hj, honly c hc ▸ hd⟩

/-- Who shows a reply made a call before and got that reply to it. -/
theorem Does.of_shown (hnew : s.tasks task = none) {c : Call} {reply : Reply}
    (h : s.Does steps k task b) (hb : (Act.answer c reply).Precedes b) :
    ∃ i j, i < j ∧ j < k ∧ s.Does steps i task (.call c) ∧
      s.Does steps j task (.answer c reply) := by
  obtain ⟨j, hj, hanswer⟩ := h.of_precedes hnew hb (by cases hb <;> rintro _ ⟨⟩ <;> rfl)
  obtain ⟨i, hi, hcall⟩ := hanswer.of_precedes hnew (.answer c reply) (by rintro _ ⟨⟩; rfl)
  exact ⟨i, j, hi, hj, hcall, hanswer⟩

theorem Does.start_unique {o o' : Operation} (h : s.Does steps j task (.start o))
    (h' : s.Does steps k task (.start o')) : j = k ∧ o = o' := by
  have hstage : (Act.start o).phase.stage = (Act.start o').phase.stage := by
    cases o <;> cases o' <;> rfl
  obtain ⟨rfl, heq⟩ := h.eq_of_stage_eq h' hstage
  exact ⟨rfl, Act.start.inj heq⟩

theorem Does.call_unique {c c' : Call} (h : s.Does steps j task (.call c))
    (h' : s.Does steps k task (.call c')) : j = k ∧ c = c' := by
  have hstage : (Act.call c).phase.stage = (Act.call c').phase.stage := by
    cases c <;> cases c' <;> rfl
  obtain ⟨rfl, heq⟩ := h.eq_of_stage_eq h' hstage
  exact ⟨rfl, Act.call.inj heq⟩

end Session

end DealForm
