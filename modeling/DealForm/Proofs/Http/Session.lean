import DealForm.Api.Client
import DealForm.Proofs.Session.History

/-!
# Sessions over HTTP

The calls of several tasks go over the network at once: each sends its request, and the answers
come in any order. An answer that leads on sends the next request of its call; any other one ends
the exchange, and the task gets its reply. Answers that a network gives to one call alone bring the
reply that the client makes of them.
-/

namespace DealForm

structure Exchange where
  call : Call
  transfer : Transfer

structure Sent where
  task : Nat
  call : Call
  request : Request

/-- A session, the exchanges that wait for an answer and the requests so far, the first one
first. -/
structure HttpSession where
  session : Session
  exchanges : Nat → Option Exchange := fun _ ↦ none
  sent : List Sent := []

inductive HttpStep where
  /-- A step of the session by itself; its reply, if it has one, comes from elsewhere. -/
  | work (x : Step)
  | send (task : Nat) (boundary : String)
  | receive (task : Nat) (answer : Answer)

namespace Transfer

variable {σ : Type} {net : Network σ} {t next : Transfer} {w : σ}

theorem run_of_ended {result : Except HttpFault Response}
    (h : t.answered (net t.request w).1 = .ended result) :
    t.run net w = (result, (net t.request w).2) := by
  rw [run]
  split
  · next result' hended =>
    rw [h] at hended
    cases hended
    rfl
  · next next' hwaiting =>
    rw [h] at hwaiting
    cases hwaiting

theorem run_of_waiting (h : t.answered (net t.request w).1 = .waiting next) :
    t.run net w = next.run net (net t.request w).2 := by
  rw [run]
  split
  · next result hended =>
    rw [h] at hended
    cases hended
  · next next' hwaiting =>
    rw [h] at hwaiting
    cases hwaiting
    rfl

end Transfer

namespace HttpSession

variable {σ : Type} {s : HttpSession} {task : Nat} {c : Call} {t : Transfer}

def ofSession (session : Session) : HttpSession where
  session := session

def ofForm (form : Form) (files : FileTree) : HttpSession :=
  ofSession (.ofForm form files)

def sendOn (s : HttpSession) (task : Nat) (e : Exchange) : HttpSession :=
  { s with
    exchanges := fun other ↦ if other = task then some e else s.exchanges other
    sent := s.sent ++ [⟨task, e.call, e.transfer.request⟩] }

def settle (s : HttpSession) (task : Nat) (served : Served) : HttpSession :=
  { s with
    session := (s.session.note served.events).step (.answer task served.reply)
    exchanges := fun other ↦ if other = task then none else s.exchanges other }

def depart (s : HttpSession) (task : Nat) (c : Call) (boundary : String) : HttpSession :=
  let s := { s with session := s.session.note [c.departure] }
  match c.transfer? boundary with
  | .ok t => s.sendOn task ⟨c, t⟩
  | .error fault => s.settle task (c.concludeTransfer (.error fault))

def proceed (s : HttpSession) (task : Nat) (c : Call) : Transfer.Progress → HttpSession
  | .waiting t => s.sendOn task ⟨c, t⟩
  | .ended result => s.settle task (c.concludeTransfer result)

def step (s : HttpSession) : HttpStep → HttpSession
  | .work x => { s with session := s.session.step x }
  | .send task boundary =>
    match s.session.pending? task, s.exchanges task with
    | some c, none => s.depart task c boundary
    | _, _ => s
  | .receive task answer =>
    match s.exchanges task with
    | some e => s.proceed task e.call (e.transfer.answered answer)
    | none => s

def run (s : HttpSession) (steps : List HttpStep) : HttpSession :=
  steps.foldl step s

theorem run_append (s : HttpSession) (xs ys : List HttpStep) :
    s.run (xs ++ ys) = (s.run xs).run ys :=
  List.foldl_append

/-! ## One call over a network -/

theorem step_receive (h : s.exchanges task = some ⟨c, t⟩) (answer : Answer) :
    s.step (.receive task answer) = s.proceed task c (t.answered answer) := by
  simp only [step, h]

theorem settle_sendOn (s : HttpSession) (task : Nat) (e : Exchange) (served : Served) :
    (s.sendOn task e).settle task served =
      { s.settle task served with sent := s.sent ++ [⟨task, e.call, e.transfer.request⟩] } := by
  have hexchanges : (fun other ↦ if other = task then none
      else if other = task then some e else s.exchanges other) =
      fun other ↦ if other = task then none else s.exchanges other := by
    funext other
    by_cases hother : other = task <;> simp [hother]
  rw [settle, sendOn, hexchanges]
  rfl

/-- Answered by a network, an exchange ends as its transfer does. -/
theorem exists_run_receive (net : Network σ) (h : s.exchanges task = some ⟨c, t⟩) (w : σ) :
    ∃ (answers : List Answer) (requests : List Sent), s.run (answers.map (.receive task)) =
      { s.settle task (c.concludeTransfer (t.run net w).1) with sent := s.sent ++ requests } := by
  -- Each redirect uses one up.
  induction hleft : t.redirectsLeft using Nat.strong_induction_on generalizing s t w with
  | _ left ih =>
  subst hleft
  have hstep := step_receive h (net t.request w).1
  cases hanswered : t.answered (net t.request w).1 with
  | ended result =>
      have hend : s.step (.receive task (net t.request w).1) =
          s.settle task (c.concludeTransfer result) := by
        rw [hstep, hanswered]
        rfl
      refine ⟨[(net t.request w).1], [], ?_⟩
      rw [List.append_nil, Transfer.run_of_ended hanswered]
      exact hend
  | waiting next =>
      have hgoOn : s.step (.receive task (net t.request w).1) = s.sendOn task ⟨c, next⟩ := by
        rw [hstep, hanswered]
        rfl
      have hnext : (s.sendOn task ⟨c, next⟩).exchanges task = some ⟨c, next⟩ := if_pos rfl
      have hless : next.redirectsLeft < t.redirectsLeft :=
        Transfer.redirectsLeft_lt_of_answered hanswered
      obtain ⟨answers, requests, hrun⟩ := ih _ hless hnext (net t.request w).2 rfl
      refine ⟨(net t.request w).1 :: answers, ⟨task, c, next.request⟩ :: requests, ?_⟩
      rw [List.map_cons, run, List.foldl_cons, hgoOn, ← run, hrun, settle_sendOn,
        Transfer.run_of_waiting hanswered]
      simp [sendOn]

/-- A call that goes over a network with nothing in between brings the task the reply of the HTTP
client. -/
theorem exists_run_send (net : Network σ) (boundary : String)
    (hc : s.session.pending? task = some c) (hfree : s.exchanges task = none) (w : σ) :
    ∃ (answers : List Answer) (requests : List Sent),
      s.run (.send task boundary :: answers.map (.receive task)) =
      { s.settle task (Api.http boundary net c w).1 with sent := s.sent ++ requests } := by
  have hstep : s.step (.send task boundary) = s.depart task c boundary := by
    simp only [step, hc, hfree]
  have hnote : ∀ events : List LogEvent,
      (s.session.note [c.departure]).note events = s.session.note (c.departure :: events) := by
    intro events
    simp [Session.note]
  cases htransfer : c.transfer? boundary with
  | error fault =>
      refine ⟨[], [], ?_⟩
      rw [List.map_nil, run, List.foldl_cons, hstep, List.append_nil]
      simp only [depart, htransfer, List.foldl_nil, settle, Api.http, hnote]
  | ok t =>
      have hdepart : s.depart task c boundary =
          sendOn { s with session := s.session.note [c.departure] } task ⟨c, t⟩ := by
        simp only [depart, htransfer]
      have ht : (s.depart task c boundary).exchanges task = some ⟨c, t⟩ := by
        rw [hdepart]
        exact if_pos rfl
      obtain ⟨answers, requests, hrun⟩ := exists_run_receive net ht w
      refine ⟨answers, ⟨task, c, t.request⟩ :: requests, ?_⟩
      rw [run, List.foldl_cons, hstep, ← run, hrun, hdepart, settle_sendOn]
      simp only [settle, sendOn, Api.http, htransfer, hnote]
      simp

/-- A waiting task that is released with the reply of the HTTP client has gone through a run. -/
theorem exists_run_eq_release (net : Network σ) (boundary : String) {session : Session}
    (hc : session.pending? task = some c) (w : σ) :
    ∃ steps, ((ofSession session).run steps).session =
      session.release task (Api.http boundary net c w).1 := by
  obtain ⟨answers, requests, hrun⟩ := exists_run_send (s := ofSession session) net boundary hc rfl w
  refine ⟨(.send task boundary :: answers.map (.receive task)) ++ [.work (.advance task)], ?_⟩
  rw [run_append, hrun]
  rfl

end HttpSession

/-! ## Every request belongs to a call -/

namespace Session

variable {s : Session} {x : Step} {task : Nat} {c : Call}

theorem calls_subset_step (s : Session) (x : Step) : s.calls ⊆ (s.step x).calls := by
  cases hact : s.act? x with
  | none => rw [step_of_act?_eq_none hact]; exact List.Subset.refl _
  | some a =>
      rw [(performs_step hact).calls]
      exact List.subset_append_left _ _

theorem mem_calls_of_phase {a : Act} {t : Session} (h : s.Performs task a t)
    (hc : t.pending? task = some c) : (task, c) ∈ t.calls := by
  rw [pending?, h.tasks_self] at hc
  have hmade : a.calls = [c] := by
    cases a with
    | call d => cases d <;> cases hc <;> rfl
    | answer d reply => cases d <;> cases hc
    | start operation => cases operation <;> cases hc
    | save file text result => cases result <;> cases hc
    | _ => cases hc
  rw [h.calls, hmade]
  simp

/-- The call that a task waits for is one of those that were made. -/
def WaitsForCalls (s : Session) : Prop :=
  ∀ task c, s.pending? task = some c → (task, c) ∈ s.calls

theorem WaitsForCalls.step (h : s.WaitsForCalls) (x : Step) : (s.step x).WaitsForCalls := by
  cases hact : s.act? x with
  | none =>
      rw [step_of_act?_eq_none hact]
      exact h
  | some a =>
      intro task c hc
      have hperforms := performs_step hact
      by_cases htask : task = x.task
      · rw [htask] at hc ⊢
        exact mem_calls_of_phase hperforms hc
      · rw [pending?, hperforms.tasks_other task htask] at hc
        exact s.calls_subset_step x (h task c hc)

end Session

namespace HttpSession

variable {s : HttpSession} {task : Nat}

/-- Whatever waits or was sent belongs to a call that was made. -/
structure ServesCalls (s : HttpSession) : Prop where
  pending : s.session.WaitsForCalls
  exchanges : ∀ task e, s.exchanges task = some e → (task, e.call) ∈ s.session.calls
  sent : ∀ e ∈ s.sent, (e.task, e.call) ∈ s.session.calls

namespace ServesCalls

theorem sendOn (h : s.ServesCalls) {e : Exchange} (he : (task, e.call) ∈ s.session.calls) :
    (s.sendOn task e).ServesCalls where
  pending := h.pending
  exchanges other e' he' := by
    simp only [HttpSession.sendOn] at he'
    split at he'
    · next hother =>
      cases he'
      rw [hother]
      exact he
    · exact h.exchanges other e' he'
  sent e' he' := by
    rcases List.mem_append.mp he' with he' | he'
    · exact h.sent e' he'
    · rw [List.mem_singleton.mp he']
      exact he

theorem work (h : s.ServesCalls) (x : Step) :
    ServesCalls { s with session := s.session.step x } where
  pending := h.pending.step x
  exchanges other e he := s.session.calls_subset_step x (h.exchanges other e he)
  sent e he := s.session.calls_subset_step x (h.sent e he)

theorem note (h : s.ServesCalls) (events : List LogEvent) :
    ServesCalls { s with session := s.session.note events } :=
  ⟨h.pending, h.exchanges, h.sent⟩

theorem settle (h : s.ServesCalls) (task : Nat) (served : Served) :
    (s.settle task served).ServesCalls := by
  have hstep := (h.note served.events).work (.answer task served.reply)
  refine ⟨hstep.pending, fun other e he ↦ ?_, hstep.sent⟩
  simp only [HttpSession.settle] at he
  split at he
  · cases he
  · exact hstep.exchanges other e he

theorem step (h : s.ServesCalls) (x : HttpStep) : (s.step x).ServesCalls := by
  cases x with
  | work x => exact h.work x
  | send task boundary =>
      simp only [HttpSession.step]
      split
      · next c hc _ =>
        simp only [depart]
        split
        · exact (h.note _).sendOn (h.pending task c hc)
        · exact (h.note _).settle task _
      · exact h
  | receive task answer =>
      simp only [HttpSession.step]
      split
      · next e he =>
        unfold proceed
        split
        · exact h.sendOn (h.exchanges task e he)
        · exact h.settle task _
      · exact h

theorem run (h : s.ServesCalls) (steps : List HttpStep) : (s.run steps).ServesCalls := by
  induction steps generalizing s with
  | nil => exact h
  | cons x steps ih => exact ih (h.step x)

end ServesCalls

theorem servesCalls_ofForm (form : Form) (files : FileTree) : (ofForm form files).ServesCalls where
  pending _ _ hc := by cases hc
  exchanges _ _ he := by cases he
  sent _ he := by cases he

end HttpSession

end DealForm
