import DealForm.Proofs.Session.Script

/-!
# Operations come to their end

A task is free to go on whenever it has its turn: no other task holds it up. One that was started,
gets its turns and, where it waits, its reply, comes to the end of its operation, whatever other
tasks do in between.
-/

namespace DealForm

/-- The steps from the start of an operation to its end, with the reply to its call. -/
def Operation.schedule (task : Nat) (reply : Reply) (o : Operation) : List Step :=
  .start task o ::
    match o with
    | edit _ | selectPreset _ => [.advance task]
    | upload _ => [.advance task, .advance task, .advance task, .answer task reply, .advance task]
    | status _ => [.advance task, .advance task, .answer task reply, .advance task]
    | download _ => [.advance task, .advance task, .advance task]

/-- The act that shows the reply to a call. -/
def Call.shown (reply : Reply) : Call → Act
  | upload r => .showUpload r reply
  | status r => .showStatus r reply

namespace Session

variable {s : Session} {steps rest : List Step} {x : Step} {i task : Nat} {a : Act}
  {reply : Reply} {o : Operation} {c : Call}

def turnsOf (task : Nat) (steps : List Step) : List Step :=
  steps.filter (·.task == task)

theorem tasks_run_of_turnsOf_eq_nil (h : turnsOf task steps = []) :
    (s.run steps).tasks task = s.tasks task := by
  induction steps generalizing s with
  | nil => rfl
  | cons x steps ih =>
      obtain ⟨hx, hsteps⟩ := List.forall_mem_cons.mp (List.filter_eq_nil_iff.mp h)
      have htask : task ≠ x.task := fun heq ↦ hx (by simp [heq])
      have hstep : (s.step x).tasks task = s.tasks task := by
        cases hact : s.act? x with
        | none => rw [step_of_act?_eq_none hact]
        | some a => exact (performs_step hact).tasks_other task htask
      exact (ih (List.filter_eq_nil_iff.mpr hsteps)).trans hstep

/-- The next turn of a task finds it in the phase that its last act left. -/
theorem exists_next_turn (hi : turnsOf task (steps.drop i) = x :: rest) :
    ∃ j, i ≤ j ∧ steps[j]? = some x ∧ x.task = task ∧
      (s.upTo steps j).tasks task = (s.upTo steps i).tasks task ∧
      turnsOf task (steps.drop (j + 1)) = rest := by
  obtain ⟨before, after, hdrop, hbefore, hx, hafter⟩ := List.filter_eq_cons_iff.mp hi
  have hget : (steps.drop i)[before.length]? = some x := by simp [hdrop]
  have hrun : s.upTo steps (i + before.length) = (s.upTo steps i).run before := by
    rw [upTo, List.take_add, hdrop, List.take_left, run_append, upTo]
  refine ⟨i + before.length, Nat.le_add_right _ _, by simpa using hget, by simpa using hx, ?_, ?_⟩
  · rw [hrun]
    exact tasks_run_of_turnsOf_eq_nil (List.filter_eq_nil_iff.mpr hbefore)
  · have hsplit : before ++ x :: after = (before ++ [x]) ++ after := by simp
    rw [Nat.add_assoc, ← List.drop_drop, hdrop, hsplit, List.drop_left' (by simp)]
    exact hafter

theorem exists_start (hnew : s.tasks task = none)
    (hturns : turnsOf task steps = .start task o :: rest) :
    ∃ i, s.Does steps i task (.start o) ∧ turnsOf task (steps.drop (i + 1)) = rest := by
  obtain ⟨i, -, hi, -, hfree, hrest⟩ := exists_next_turn (s := s) (i := 0) hturns
  exact ⟨i, ⟨_, hi, rfl, by simp [act?, hfree, hnew]⟩, hrest⟩

/-- A task that does not wait goes on at its next turn. -/
theorem Does.advance (h : s.Does steps i task a)
    (hturns : turnsOf task (steps.drop (i + 1)) = .advance task :: rest) :
    ∃ j, i < j ∧ turnsOf task (steps.drop (j + 1)) = rest ∧
      ∀ b, (s.upTo steps j).actFrom a.phase = some b → s.Does steps j task b := by
  obtain ⟨j, hij, hj, -, hphase, hrest⟩ := exists_next_turn (s := s) hturns
  refine ⟨j, hij, hrest, fun b hb ↦ ⟨_, hj, rfl, ?_⟩⟩
  simp [act?, hphase, h.performs.tasks_self, hb]

/-- A task that waits takes the reply that comes next. -/
theorem Does.answer (h : s.Does steps i task a)
    (hturns : turnsOf task (steps.drop (i + 1)) = .answer task reply :: rest) :
    ∃ j, i < j ∧ turnsOf task (steps.drop (j + 1)) = rest ∧
      ∀ b, actOnReply reply a.phase = some b → s.Does steps j task b := by
  obtain ⟨j, hij, hj, -, hphase, hrest⟩ := exists_next_turn (s := s) hturns
  refine ⟨j, hij, hrest, fun b hb ↦ ⟨_, hj, rfl, ?_⟩⟩
  simp [act?, hphase, h.performs.tasks_self, hb]

/-- A call that was made gets its reply, and then the reply is shown. -/
theorem Does.completes_call (h : s.Does steps i task (.call c))
    (hturns : turnsOf task (steps.drop (i + 1)) =
      .answer task reply :: .advance task :: rest) :
    ∃ l m, i < l ∧ l < m ∧ s.Does steps l task (.answer c reply) ∧
      s.Does steps m task (c.shown reply) := by
  obtain ⟨l, hil, hturns, hact⟩ := h.answer hturns
  have hanswer := hact (.answer c reply) (by cases c <;> rfl)
  obtain ⟨m, hlm, -, hact⟩ := hanswer.advance hturns
  exact ⟨l, m, hil, hlm, hanswer, hact (c.shown reply) (by cases c <;> rfl)⟩

/-! ## Each operation -/

/-- An edit is made at the first turn after its start. -/
theorem edit_completes {change : Edit} (hnew : s.tasks task = none)
    (hturns : (Operation.edit change).schedule task reply <+: turnsOf task steps) :
    ∃ i j, i < j ∧ s.Does steps i task (.start (.edit change)) ∧
      s.Does steps j task (.edit change) ∧ (s.run steps).outcome? task = some .edited := by
  obtain ⟨rest, hturns⟩ := hturns
  obtain ⟨i, hstart, hturns⟩ := exists_start hnew hturns.symm
  obtain ⟨j, hij, -, hact⟩ := hstart.advance hturns
  have hedit := hact (.edit change) rfl
  exact ⟨i, j, hij, hstart, hedit, hedit.outcome_eq rfl⟩

/-- The choice of a preset is made or refused at the first turn after its start. -/
theorem selectPreset_completes {key : String} (hnew : s.tasks task = none)
    (hturns : (Operation.selectPreset key).schedule task reply <+: turnsOf task steps) :
    ∃ i j, i < j ∧ s.Does steps i task (.start (.selectPreset key)) ∧
      ((∃ change, (s.upTo steps j).form.presetEdit key = .ok change ∧
          s.Does steps j task (.edit change) ∧ (s.run steps).outcome? task = some .edited) ∨
        ∃ error, (s.upTo steps j).form.presetEdit key = .error error ∧
          (s.run steps).outcome? task = some (.failed error)) := by
  obtain ⟨rest, hturns⟩ := hturns
  obtain ⟨i, hstart, hturns⟩ := exists_start hnew hturns.symm
  obtain ⟨j, hij, -, hact⟩ := hstart.advance hturns
  refine ⟨i, j, hij, hstart, ?_⟩
  cases hpreset : (s.upTo steps j).form.presetEdit key with
  | ok change =>
      have hedit := hact (.edit change) (by
        simp only [Act.phase, Operation.firstPhase, actFrom, hpreset])
      exact Or.inl ⟨change, rfl, hedit, hedit.outcome_eq rfl⟩
  | error error =>
      have hrefuse := hact (.refuse error) (by
        simp only [Act.phase, Operation.firstPhase, actFrom, hpreset])
      exact Or.inr ⟨error, rfl, hrefuse.outcome_eq rfl⟩

/-- An upload makes its call with the values of the first turn, gets the reply and shows it. -/
theorem upload_completes {input : UploadInput} (hnew : s.tasks task = none)
    (hturns : (Operation.upload input).schedule task reply <+: turnsOf task steps) :
    ∃ i j k l m, i < j ∧ j < k ∧ k < l ∧ l < m ∧
      s.Does steps i task (.start (.upload input)) ∧
      let r := (s.upTo steps j).form.uploadRequest input
      s.Does steps j task (.compose r) ∧ s.Does steps k task (.call (.upload r)) ∧
        s.Does steps l task (.answer (.upload r) reply) ∧
        s.Does steps m task (.showUpload r reply) ∧
        (s.run steps).outcome? task = some (.rendered (renderUpload reply)) := by
  obtain ⟨rest, hturns⟩ := hturns
  obtain ⟨i, hstart, hturns⟩ := exists_start hnew hturns.symm
  obtain ⟨j, hij, hturns, hact⟩ := hstart.advance hturns
  have hcompose := hact (.compose ((s.upTo steps j).form.uploadRequest input)) rfl
  obtain ⟨j', hjj, hturns, hact⟩ := hcompose.advance hturns
  have hannounce := hact _ rfl
  obtain ⟨k, hjk, hturns, hact⟩ := hannounce.advance hturns
  have hcall := hact _ rfl
  obtain ⟨l, m, hkl, hlm, hanswer, hshow⟩ := hcall.completes_call hturns
  exact ⟨i, j, k, l, m, hij, hjj.trans hjk, hkl, hlm, hstart, hcompose, hcall, hanswer, hshow,
    hshow.outcome_eq rfl⟩

/-- A lookup makes its call with the values of the first turn, gets the reply and shows it. -/
theorem lookup_completes {contentId : String} (hnew : s.tasks task = none)
    (hturns : (Operation.status contentId).schedule task reply <+: turnsOf task steps) :
    ∃ i j k l m, i < j ∧ j < k ∧ k < l ∧ l < m ∧
      s.Does steps i task (.start (.status contentId)) ∧
      let r := (s.upTo steps j).form.statusRequest contentId
      s.Does steps j task (.ask r) ∧ s.Does steps k task (.call (.status r)) ∧
        s.Does steps l task (.answer (.status r) reply) ∧
        s.Does steps m task (.showStatus r reply) ∧
        (s.run steps).outcome? task = some (.rendered (renderStatus reply)) := by
  obtain ⟨rest, hturns⟩ := hturns
  obtain ⟨i, hstart, hturns⟩ := exists_start hnew hturns.symm
  obtain ⟨j, hij, hturns, hact⟩ := hstart.advance hturns
  have hask := hact (.ask ((s.upTo steps j).form.statusRequest contentId)) rfl
  obtain ⟨k, hjk, hturns, hact⟩ := hask.advance hturns
  have hcall := hact _ rfl
  obtain ⟨l, m, hkl, hlm, hanswer, hshow⟩ := hcall.completes_call hturns
  exact ⟨i, j, k, l, m, hij, hjk, hkl, hlm, hstart, hask, hcall, hanswer, hshow,
    hshow.outcome_eq rfl⟩

/-- A download saves the text of its first turn, or fails to. -/
theorem download_completes {directory : Path} (hnew : s.tasks task = none)
    (hturns : (Operation.download directory).schedule task reply <+: turnsOf task steps) :
    ∃ i j k file, i < j ∧ j < k ∧ s.Does steps i task (.start (.download directory)) ∧
      let text := (s.upTo steps j).form.display.responseArea
      s.Does steps j task (.readResponse directory text) ∧
        ((s.Does steps k task (.save file text (.ok ())) ∧
            (s.run steps).outcome? task = some (.saved file)) ∨
          ∃ fault, s.Does steps k task (.save file text (.error fault)) ∧
            (s.run steps).outcome? task = some (.failed (.io fault))) := by
  obtain ⟨rest, hturns⟩ := hturns
  obtain ⟨i, hstart, hturns⟩ := exists_start hnew hturns.symm
  obtain ⟨j, hij, hturns, hact⟩ := hstart.advance hturns
  have hread := hact (.readResponse directory (s.upTo steps j).form.display.responseArea) rfl
  obtain ⟨j', hjj, hturns, hact⟩ := hread.advance hturns
  have hname := hact (.nameFile directory (s.upTo steps j').form.downloadName _) rfl
  obtain ⟨k, hjk, -, hact⟩ := hname.advance hturns
  have hsave := hact _ rfl
  refine ⟨i, j, k, directory.join (Path.ofString (s.upTo steps j').form.downloadName), hij,
    hjj.trans hjk, hstart, hread, ?_⟩
  generalize ((s.upTo steps k).files.writeText _ _).2 = result at hsave
  cases result with
  | ok _ => exact Or.inl ⟨hsave, hsave.outcome_eq rfl⟩
  | error fault => exact Or.inr ⟨fault, hsave, hsave.outcome_eq rfl⟩

end Session

end DealForm
