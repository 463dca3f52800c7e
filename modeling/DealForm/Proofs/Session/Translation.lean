import DealForm.Form.Session

/-!
# Translated runs

Other phases and calls may be put in the place of those of a session, and other operations in the
place of those that are started. If what a task does in the place of a phase is what stands in the
place of what it did, then the translated steps lead to the translated session.
-/

namespace DealForm

/-- What stands in the place of each phase, call and operation. An operation starts in the phase
that stands for its first one, and nothing but an end stands for an end. -/
structure Translation where
  phase : Phase → Phase
  call : Call → Call := id
  operation : Operation → Operation
  firstPhase_operation : ∀ o, (operation o).firstPhase = phase o.firstPhase
  phase_eq_ended : ∀ p outcome, phase p = .ended outcome ↔ p = .ended outcome

theorem Session.outcome?_eq_some {s : Session} {task : Nat} {outcome : Outcome} :
    s.outcome? task = some outcome ↔ s.tasks task = some (.ended outcome) := by
  rw [outcome?]
  split
  · next hp => simp [hp]
  · next hp =>
    refine iff_of_false nofun fun h ↦ ?_
    exact hp outcome h

namespace Translation

variable (f : Translation) {s t : Session} {task : Nat}

def step : Step → Step
  | .start task o => .start task (f.operation o)
  | x => x

def session (s : Session) : Session :=
  { s with
    tasks := fun task ↦ (s.tasks task).map f.phase
    calls := s.calls.map fun c ↦ (c.1, f.call c.2) }

theorem session_tasks (s : Session) (task : Nat) :
    (f.session s).tasks task = (s.tasks task).map f.phase := rfl

variable {f}

theorem session_enter {p q : Phase} (hs : t = f.session s) (hp : q = f.phase p) (task : Nat) :
    t.enter task q = f.session (s.enter task p) := by
  have htasks : (t.enter task q).tasks = (f.session (s.enter task p)).tasks := by
    funext other
    by_cases hother : other = task <;> simp [Session.enter, session, hs, hp, hother]
  subst hs
  exact congrArg (fun tasks ↦ { f.session s with tasks }) htasks

theorem session_call {c d : Call} (hs : t = f.session s) (hc : d = f.call c) (task : Nat) :
    t.call task d = f.session (s.call task c) := by
  simp [Session.call, session, hs, hc]

theorem session_end (hs : t = f.session s) (task : Nat) (outcome : Outcome) :
    t.enter task (.ended outcome) = f.session (s.enter task (.ended outcome)) :=
  session_enter hs ((f.phase_eq_ended _ outcome).mpr rfl).symm task

theorem session_makeEdit (s : Session) (task : Nat) (change : Edit) :
    (f.session s).makeEdit task change = f.session (s.makeEdit task change) :=
  session_end (by rfl) task .edited

theorem session_save (s : Session) (task : Nat) (file : Path) (text : String) :
    (f.session s).save task file text = f.session (s.save task file text) := by
  have hfiles : (f.session s).files = s.files := rfl
  simp only [Session.save, hfiles]
  split <;> exact session_end (by rfl) task _

theorem outcome?_session (s : Session) (task : Nat) :
    (f.session s).outcome? task = s.outcome? task := by
  apply Option.ext
  intro outcome
  rw [Session.outcome?_eq_some, Session.outcome?_eq_some, session_tasks, Option.map_eq_some_iff]
  simp [f.phase_eq_ended]

/-- A task in the phase that stands for one does what stands for what a task does in that one. -/
structure Commutes (f : Translation) (s : Session) : Prop where
  advance : ∀ task p, (f.session s).advanceFrom task (f.phase p) =
    f.session (s.advanceFrom task p)
  answer : ∀ task reply p, (f.session s).answerFrom task reply (f.phase p) =
    f.session (s.answerFrom task reply p)

theorem Commutes.step (h : f.Commutes s) (x : Step) :
    (f.session s).step (f.step x) = f.session (s.step x) := by
  cases x with
  | start task o =>
      simp only [Translation.step, Session.step, session_tasks]
      cases s.tasks task with
      | none =>
          have henter := session_enter (s := s) rfl (f.firstPhase_operation o) task
          exact congrArg (fun s : Session ↦ { s with next := max s.next (task + 1) }) henter
      | some p => rfl
  | advance task =>
      simp only [Translation.step, Session.step, session_tasks]
      cases s.tasks task with
      | none => rfl
      | some p => exact h.advance task p
  | answer task reply =>
      simp only [Translation.step, Session.step, session_tasks]
      cases s.tasks task with
      | none => rfl
      | some p => exact h.answer task reply p

/-- A whole run is translated if each session on the way, which keeps what its steps keep, is. -/
theorem session_run {P : Session → Prop} (hstep : ∀ s x, P s → P (s.step x))
    (hcommutes : ∀ s, P s → f.Commutes s) (hs : P s) (steps : List Step) :
    (f.session s).run (steps.map f.step) = f.session (s.run steps) := by
  induction steps generalizing s with
  | nil => rfl
  | cons x steps ih =>
      rw [List.map_cons, Session.run, List.foldl_cons, (hcommutes s hs).step]
      exact ih (hstep s x hs)

end Translation

end DealForm
