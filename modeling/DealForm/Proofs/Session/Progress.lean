import DealForm.Proofs.Session.Locks
import Mathlib.Algebra.BigOperators.Group.Finset.Basic
import Mathlib.Algebra.Order.BigOperators.Group.Finset

/-!
# Waiting blocks nobody

A task that waits for a reply has no guard, so whoever has one can go on. Once nobody has one the
queues are empty, and whoever is left can go on too. Each such step takes an instruction off the
code of a task, so after finitely many of them every task is done or waits for a reply.
-/

namespace DealForm

open Instruction

/-! ## Code and phases -/

namespace Phase

/-- What a task in a phase has left to do, the locks apart. -/
def left : Phase → List Instruction
  | editing _ | choosing _ | uploadAnswered .. | statusAnswered .. | downloadNamed .. => [.advance]
  | uploadSubmitted _ => [.advance, .advance, .advance, .await, .advance]
  | uploadComposed _ | statusAsked _ => [.advance, .advance, .await, .advance]
  | uploadAnnounced _ | statusComposed _ => [.advance, .await, .advance]
  | uploadWaiting _ | statusWaiting _ => [.await, .advance]
  | downloadAsked _ => [.advance, .advance, .advance]
  | downloadRead .. => [.advance, .advance]
  | ended _ => []

theorem look_notMem_left (p : Phase) (glance : Glance) : .look glance ∉ p.left := by
  cases p <;> simp [left]

end Phase

namespace Session

variable {s : Session} {p : Phase} {a : Act} {reply : Reply} {task : Nat}
  {rest : List Instruction}

theorem left_of_actFrom (h : s.actFrom p = some a) : p.left = .advance :: a.phase.left := by
  cases p with
  | choosing key =>
      simp only [actFrom] at h
      split at h <;> cases h <;> rfl
  | downloadNamed file text =>
      cases h
      cases (s.files.writeText file text).2 <;> rfl
  | uploadWaiting | statusWaiting | ended => cases h
  | _ =>
      cases h
      rfl

theorem exists_actFrom (h : p.left = .advance :: rest) : ∃ a, s.actFrom p = some a := by
  cases p with
  | choosing key =>
      rw [actFrom]
      split
      · exact ⟨_, rfl⟩
      · exact ⟨_, rfl⟩
  | uploadWaiting | statusWaiting | ended => cases h
  | _ => exact ⟨_, rfl⟩

theorem left_of_actOnReply (h : actOnReply reply p = some a) :
    p.left = .await :: a.phase.left := by
  cases p with
  | uploadWaiting | statusWaiting =>
      cases h
      rfl
  | _ => cases h

theorem exists_actOnReply (h : p.left = .await :: rest) (reply : Reply) :
    ∃ a, actOnReply reply p = some a := by
  cases p with
  | uploadWaiting | statusWaiting => exact ⟨_, rfl⟩
  | _ => cases h

theorem left_of_pending? (h : (s.pending? task).isSome) :
    ∃ p, s.tasks task = some p ∧ p.left = [.await, .advance] := by
  rw [pending?] at h
  split at h
  · next heq => exact ⟨_, heq, rfl⟩
  · next heq => exact ⟨_, heq, rfl⟩
  · cases h

theorem pending?_of_left (h : s.tasks task = some p) (hleft : p.left = .await :: rest) :
    (s.pending? task).isSome := by
  cases p with
  | uploadWaiting | statusWaiting =>
      rw [pending?, h]
      rfl
  | _ => cases hleft

theorem outcome?_of_left (h : s.tasks task = some p) (hleft : p.left = []) :
    (s.outcome? task).isSome := by
  cases p with
  | ended outcome =>
      rw [outcome?, h]
      rfl
  | _ => cases hleft

end Session

namespace Job

def makesCall : Job → Bool
  | operation (.upload _) | operation (.status _) => true
  | _ => false

theorem await_mem_code_iff (presets : List Preset) (j : Job) :
    .await ∈ j.code presets ↔ j.makesCall = true := by
  cases j with
  | glance g => simp [code, guarded, makesCall]
  | operation o =>
      cases o with
      | selectPreset key =>
          rw [code, Operation.code]
          split <;> simp [guarded, makesCall]
      | _ => simp [code, Operation.code, guarded, makesCall]

end Job

theorem Operation.work_code (presets : List Preset) (o : Operation) :
    work (o.code presets) = o.firstPhase.left := by
  cases o with
  | selectPreset key =>
      rw [Operation.code]
      split <;> rfl
  | _ => rfl

/-! ## One step -/

namespace LockedSession

variable {m n : LockedSession} {task other : Nat} {lock : Lock} {access : Access}
  {code rest : List Instruction}

theorem step_go (m : LockedSession) (task : Nat) :
    m.step (.go task) = m.perform task (m.code task) := rfl

theorem code_acquire (m : LockedSession) (task : Nat) (lock : Lock) (access : Access)
    (rest : List Instruction) (other : Nat) :
    (m.acquire task lock access rest).code other = m.code other ∨
      other = task ∧ (m.acquire task lock access rest).code other = rest := by
  unfold acquire
  dsimp only
  split
  · exact Or.inl rfl
  · split
    · by_cases heq : other = task
      · exact Or.inr ⟨heq, if_pos heq⟩
      · exact Or.inl (if_neg heq)
    · exact Or.inl rfl

/-- When a task goes on, each code stays as it is or loses an instruction that is not to wait; that
of another task can only get past a lock. -/
theorem IsOrderly.code_go (h : m.IsOrderly) (task other : Nat) :
    (m.step (.go task)).code other = m.code other ∨
      ∃ i ≠ .await, (other ≠ task → ∃ lock access, i = .acquire lock access) ∧
        m.code other = i :: (m.step (.go task)).code other := by
  rw [step_go]
  cases hcode : m.code task with
  | nil => exact Or.inl rfl
  | cons i rest =>
      have hself : ∀ t : LockedSession, t.code = m.code → i ≠ .await →
          (t.setCode task rest).code other = m.code other ∨
            ∃ i ≠ .await, (other ≠ task → ∃ lock access, i = .acquire lock access) ∧
              m.code other = i :: (t.setCode task rest).code other := by
        intro t ht hi
        rw [setCode_code, ht]
        split
        · next heq => exact Or.inr ⟨i, hi, (absurd heq ·), heq ▸ hcode⟩
        · exact Or.inl rfl
      cases i with
      | await => exact Or.inl rfl
      | advance => exact hself { m with session := m.session.step (.advance task) } rfl (by simp)
      | look glance => exact hself { m with views := _ } rfl (by simp)
      | acquire lock access =>
          rcases m.code_acquire task lock access rest other with heq | ⟨rfl, heq⟩
          · exact Or.inl heq
          · refine Or.inr ⟨.acquire lock access, by simp, fun _ ↦ ⟨lock, access, rfl⟩, ?_⟩
            rw [perform, heq, hcode]
      | release lock =>
          have hafter : (m.perform task (.release lock :: rest)).code other =
              LockState.codeAfterRelease m.code (m.locks lock) task rest other := rfl
          rw [hafter, LockState.codeAfterRelease]
          split
          · next heq => exact Or.inr ⟨.release lock, by simp, (absurd heq ·), heq ▸ hcode⟩
          · split
            · next hother =>
              obtain ⟨access, rest', hasks⟩ := (h.locks lock).asks_of_admitted hother
              refine Or.inr ⟨.acquire lock access, by simp, fun _ ↦ ⟨lock, access, rfl⟩, ?_⟩
              rw [hasks, List.tail_cons]
            · exact Or.inl rfl

theorem IsOrderly.await_mem_code_go (h : m.IsOrderly) (task other : Nat) :
    .await ∈ (m.step (.go task)).code other ↔ .await ∈ m.code other := by
  rcases h.code_go task other with heq | ⟨i, hi, -, hcode⟩
  · rw [heq]
  · rw [hcode, List.mem_cons, or_iff_right hi.symm]

theorem IsOrderly.go (h : m.IsOrderly) (task : Nat) : (m.step (.go task)).IsOrderly := by
  rw [step_go]
  have htask := h.code task
  cases hcode : m.code task with
  | nil => exact h
  | cons i rest =>
      rw [hcode] at htask
      cases i with
      | await => exact h
      | acquire lock access => exact h.acquire hcode
      | release lock => exact h.release hcode
      | advance | look glance =>
          refine IsOrderly.setCode ⟨h.code, h.locks⟩ htask ?_ fun lock access rest' hasks ↦ ?_
          · exact (congrArg held? hcode).symm
          · cases hcode.symm.trans hasks

/-! ## Tasks and their code -/

/-- The code of each task is what its phase leaves to do. -/
structure FollowsSession (m : LockedSession) : Prop where
  phase : ∀ task p, m.session.tasks task = some p → work (m.code task) = p.left
  glance : ∀ task < m.next, m.session.tasks task = none →
    (∃ glance, work (m.code task) = [.look glance]) ∨
      work (m.code task) = [] ∧ (m.views task).isSome
  unused : ∀ task, m.next ≤ task → m.code task = [] ∧ m.session.tasks task = none

/-- A task that is about to do something else than to look is one of the session. -/
theorem FollowsSession.exists_phase (h : m.FollowsSession) {i : Instruction}
    (hwork : work (m.code task) = i :: rest) (hi : ∀ glance, i ≠ .look glance) :
    ∃ p, m.session.tasks task = some p ∧ p.left = i :: rest := by
  cases hp : m.session.tasks task with
  | some p => exact ⟨p, rfl, (h.phase task p hp).symm.trans hwork⟩
  | none =>
      exfalso
      rcases Nat.lt_or_ge task m.next with hlt | hge
      · rcases h.glance task hlt hp with ⟨glance, hlook⟩ | ⟨hnil, -⟩
        · cases hwork.symm.trans hlook
          exact hi glance rfl
        · cases hwork.symm.trans hnil
      · rw [(h.unused task hge).1] at hwork
        cases hwork

/-- Locks are taken and dropped and nothing else happens. -/
theorem FollowsSession.congr (h : m.FollowsSession) (hsession : n.session = m.session)
    (hviews : n.views = m.views) (hnext : n.next = m.next)
    (hwork : ∀ task, work (n.code task) = work (m.code task))
    (hunused : ∀ task, m.code task = [] → n.code task = []) : n.FollowsSession where
  phase task p hp := (hwork task).trans (h.phase task p (hsession ▸ hp))
  glance task hlt hp := by
    rw [hwork, hviews]
    exact h.glance task (hnext ▸ hlt) (hsession ▸ hp)
  unused task hge := by
    obtain ⟨hcode, hp⟩ := h.unused task (hnext ▸ hge)
    exact ⟨hunused task hcode, by rw [hsession, hp]⟩

/-- A task of the session takes a step there. -/
theorem FollowsSession.setCode (h : m.FollowsSession) {s : Session} {a : Act}
    (hs : m.session.Performs task a s) (hwork : work rest = a.phase.left)
    (htask : task < m.next) : ({ m with session := s }.setCode task rest).FollowsSession where
  phase other p hp := by
    rw [setCode_code]
    split
    · next heq =>
      cases hs.tasks_self.symm.trans (heq ▸ hp)
      exact hwork
    · next hne => exact h.phase other p ((hs.tasks_other other hne).symm.trans hp)
  glance other hlt hp := by
    rw [setCode_code]
    split
    · next heq => cases hs.tasks_self.symm.trans (heq ▸ hp)
    · next hne => exact h.glance other hlt ((hs.tasks_other other hne).symm.trans hp)
  unused other hge := by
    have hne : other ≠ task := (htask.trans_le hge).ne'
    rw [setCode_code, if_neg hne]
    obtain ⟨hcode, hp⟩ := h.unused other hge
    exact ⟨hcode, (hs.tasks_other other hne).trans hp⟩

theorem FollowsSession.lt_next (h : m.FollowsSession) (hcode : m.code task ≠ []) :
    task < m.next := by
  by_contra hge
  exact hcode (h.unused task (Nat.le_of_not_lt hge)).1

/-- A task that looks gets its view. -/
theorem FollowsSession.look (h : m.FollowsSession) {glance : Glance}
    (hcode : m.code task = .look glance :: rest) (view : View) :
    ({ m with views := fun other ↦ if other = task then some view else m.views other }.setCode
      task rest).FollowsSession := by
  have hlt : task < m.next := h.lt_next (hcode ▸ List.cons_ne_nil _ rest)
  have hlook : .look glance ∈ work (m.code task) := by
    rw [hcode]
    exact List.mem_cons_self
  have hnone : m.session.tasks task = none := by
    rw [Option.eq_none_iff_forall_ne_some]
    intro p hp
    exact p.look_notMem_left glance (h.phase task p hp ▸ hlook)
  have hrest : work rest = [] := by
    rcases h.glance task hlt hnone with ⟨glance', heq⟩ | ⟨heq, -⟩
    · rw [hcode] at heq
      exact (List.cons.inj heq).2
    · rw [heq] at hlook
      cases hlook
  refine ⟨fun other p hp ↦ ?_, fun other hother hp ↦ ?_, fun other hge ↦ ?_⟩
  · have hne : other ≠ task := by
      rintro rfl
      cases hnone.symm.trans hp
    exact (congrArg work (if_neg hne)).trans (h.phase other p hp)
  · rw [setCode_code]
    change (∃ glance, _) ∨ _ ∧ (if other = task then some view else m.views other).isSome
    split
    · exact Or.inr ⟨hrest, rfl⟩
    · exact h.glance other hother hp
  · obtain ⟨hother, hp⟩ := h.unused other hge
    exact ⟨(if_neg (hlt.trans_le hge).ne').trans hother, hp⟩

theorem acquire_session (m : LockedSession) (task : Nat) (lock : Lock) (access : Access)
    (rest : List Instruction) : (m.acquire task lock access rest).session = m.session ∧
      (m.acquire task lock access rest).views = m.views ∧
      (m.acquire task lock access rest).next = m.next := by
  unfold acquire
  dsimp only
  split
  · exact ⟨rfl, rfl, rfl⟩
  · split <;> exact ⟨rfl, rfl, rfl⟩

/-- Taking and dropping locks leaves the rest of the work as it is. -/
theorem IsOrderly.work_code_go (h : m.IsOrderly) {i : Instruction}
    (hcode : m.code task = i :: rest) (hi : work [i] = []) (other : Nat) :
    work ((m.step (.go task)).code other) = work (m.code other) := by
  rcases h.code_go task other with heq | ⟨j, -, hj, hother⟩
  · rw [heq]
  · have hcut : work [j] = [] := by
      by_cases heq : other = task
      · cases hcode.symm.trans (heq ▸ hother)
        exact hi
      · obtain ⟨lock, access, rfl⟩ := hj heq
        rfl
    rw [hother, work_cons, hcut, List.nil_append]

theorem FollowsSession.go (h : m.FollowsSession) (horderly : m.IsOrderly) (task : Nat) :
    (m.step (.go task)).FollowsSession := by
  cases hcode : m.code task with
  | nil =>
      rw [step_go, hcode]
      exact h
  | cons i rest =>
      have hlt : task < m.next := h.lt_next (hcode ▸ List.cons_ne_nil i rest)
      have hnil : ∀ other, m.code other = [] → (m.step (.go task)).code other = [] := by
        intro other hother
        rcases horderly.code_go task other with heq | ⟨j, -, -, hcons⟩
        · rw [heq, hother]
        · cases hother.symm.trans hcons
      cases i with
      | await =>
          rw [step_go, hcode]
          exact h
      | acquire lock access =>
          obtain ⟨hsession, hviews, hnext⟩ := m.acquire_session task lock access rest
          have hwork := horderly.work_code_go hcode rfl
          rw [step_go, hcode] at hwork hnil ⊢
          exact h.congr hsession hviews hnext hwork hnil
      | release lock =>
          have hwork := horderly.work_code_go hcode rfl
          rw [step_go, hcode] at hwork hnil ⊢
          exact h.congr rfl rfl rfl hwork hnil
      | advance =>
          rw [step_go, hcode]
          obtain ⟨p, hp, hleft⟩ := h.exists_phase (congrArg work hcode) nofun
          obtain ⟨a, ha⟩ := m.session.exists_actFrom hleft
          have hact : m.session.act? (.advance task) = some a := by
            rw [Session.act?, hp, Option.bind_some, ha]
          have hrest := hleft.symm.trans (Session.left_of_actFrom ha)
          exact h.setCode (Session.performs_step hact) (List.cons.inj hrest).2 hlt
      | look glance =>
          rw [step_go, hcode]
          exact h.look hcode _

/-- The guards are as the code says, and the code is as the session says. -/
structure IsSound (m : LockedSession) : Prop where
  orderly : m.IsOrderly
  follows : m.FollowsSession

theorem isSound_ofForm (form : Form) (files : FileTree) :
    (ofSession (.ofForm form files)).IsSound where
  orderly := isOrderly_ofSession _
  follows :=
    { phase := fun _ _ hp ↦ by cases hp
      glance := fun _ hlt _ ↦ absurd hlt (Nat.not_lt_zero _)
      unused := fun _ _ ↦ ⟨rfl, rfl⟩ }

theorem step_start (m : LockedSession) (job : Job) : m.step (.start job) =
    { m.startJob job with next := m.next + 1 }.setCode m.next
      (job.code m.session.form.presets) := rfl

theorem code_start (m : LockedSession) (job : Job) :
    (m.step (.start job)).code m.next = job.code m.session.form.presets := if_pos rfl

/-- A task begins with the next number. -/
theorem FollowsSession.start (h : m.FollowsSession) {s : Session}
    (hother : ∀ other ≠ m.next, s.tasks other = m.session.tasks other)
    (hphase : ∀ p, s.tasks m.next = some p → work code = p.left)
    (hglance : s.tasks m.next = none → ∃ glance, work code = [.look glance]) :
    ({ m with session := s, next := m.next + 1 }.setCode m.next code).FollowsSession := by
  refine ⟨fun other p hp ↦ ?_, fun other hlt hp ↦ ?_, fun other hge ↦ ?_⟩
  · rw [setCode_code]
    split
    · next heq => exact hphase p (heq ▸ hp)
    · next hne => exact h.phase other p ((hother other hne).symm.trans hp)
  · rw [setCode_code]
    split
    · next heq => exact Or.inl (hglance (heq ▸ hp))
    · next hne =>
      have hlt' : other < m.next := lt_of_le_of_ne (Nat.le_of_lt_succ hlt) hne
      exact h.glance other hlt' ((hother other hne).symm.trans hp)
  · have hne : other ≠ m.next := (Nat.lt_of_succ_le hge).ne'
    obtain ⟨hcode, hnone⟩ := h.unused other (Nat.le_of_succ_le hge)
    exact ⟨(if_neg hne).trans hcode, (hother other hne).trans hnone⟩

theorem IsSound.start (h : m.IsSound) (job : Job) : (m.step (.start job)).IsSound := by
  obtain ⟨hfree, hnone⟩ := h.follows.unused m.next le_rfl
  obtain ⟨hguard, hcode⟩ := job.isOrderly_code m.session.form.presets
  have hempty : held? (job.code m.session.form.presets) = held? (m.code m.next) :=
    hguard.trans (congrArg held? hfree).symm
  have hasks : ∀ lock access rest, m.code m.next ≠ .acquire lock access :: rest := by
    intro lock access rest hasks
    cases hfree.symm.trans hasks
  rw [step_start]
  cases job with
  | glance glance =>
      refine ⟨IsOrderly.setCode ⟨h.orderly.code, h.orderly.locks⟩ hcode hempty hasks,
        h.follows.start (fun _ _ ↦ rfl) (fun p hp ↦ ?_) fun _ ↦ ⟨glance, rfl⟩⟩
      cases hnone.symm.trans hp
  | operation o =>
      have hact : m.session.act? (.start m.next o) = some (.start o) := by
        rw [Session.act?, hnone]
      have hperforms := Session.performs_step hact
      refine ⟨IsOrderly.setCode ⟨h.orderly.code, h.orderly.locks⟩ hcode hempty hasks,
        h.follows.start hperforms.tasks_other (fun p hp ↦ ?_) fun hp ↦ ?_⟩
      · cases hperforms.tasks_self.symm.trans hp
        exact o.work_code m.session.form.presets
      · cases hperforms.tasks_self.symm.trans hp

theorem step_answer (m : LockedSession) (reply : Reply) (hcode : m.code task = .await :: rest) :
    m.step (.answer task reply) =
      { m with session := m.session.step (.answer task reply) }.setCode task rest := by
  rw [step, hcode]

theorem IsSound.answer (h : m.IsSound) (task : Nat) (reply : Reply) :
    (m.step (.answer task reply)).IsSound := by
  rw [step]
  split
  · next rest hcode =>
    have htask := h.orderly.code task
    rw [hcode] at htask
    obtain ⟨p, hp, hleft⟩ := h.follows.exists_phase (congrArg work hcode) nofun
    obtain ⟨a, ha⟩ := Session.exists_actOnReply hleft reply
    have hact : m.session.act? (.answer task reply) = some a := by
      rw [Session.act?, hp, Option.bind_some, ha]
    have hrest := hleft.symm.trans (Session.left_of_actOnReply ha)
    refine ⟨IsOrderly.setCode ⟨h.orderly.code, h.orderly.locks⟩ htask.2 ?_ ?_,
      h.follows.setCode (Session.performs_step hact) (List.cons.inj hrest).2
        (h.follows.lt_next (hcode ▸ List.cons_ne_nil _ rest))⟩
    · exact htask.1.trans (congrArg held? hcode).symm
    · intro lock access rest' hasks
      cases hcode.symm.trans hasks
  · exact h

theorem IsSound.step (h : m.IsSound) (x : Move) : (m.step x).IsSound := by
  cases x with
  | start job => exact h.start job
  | go task => exact ⟨h.orderly.go task, h.follows.go h.orderly task⟩
  | answer task reply => exact h.answer task reply

theorem IsSound.run (h : m.IsSound) (moves : List Move) : (m.run moves).IsSound := by
  induction moves generalizing m with
  | nil => exact h
  | cons x moves ih => exact ih (h.step x)

/-! ## Waiting and being done -/

theorem IsSound.pending?_iff (h : m.IsSound) :
    (m.session.pending? task).isSome ↔ (m.code task).head? = some .await := by
  constructor
  · intro hpending
    obtain ⟨p, hp, hleft⟩ := Session.left_of_pending? hpending
    apply (h.orderly.code task).head?_eq_await
    rw [h.follows.phase task p hp, hleft]
    rfl
  · intro hcode
    obtain ⟨rest, hcode⟩ := List.head?_eq_some_iff.mp hcode
    obtain ⟨p, hp, hleft⟩ := h.follows.exists_phase (congrArg work hcode) nofun
    exact Session.pending?_of_left hp hleft

theorem IsSound.await_mem_code (h : m.IsSound) (hpending : (m.session.pending? task).isSome) :
    .await ∈ m.code task := by
  obtain ⟨rest, hcode⟩ := List.head?_eq_some_iff.mp (h.pending?_iff.mp hpending)
  rw [hcode]
  exact List.mem_cons_self

/-- A task waits only once. -/
theorem IsSound.await_notMem_of_pending? (h : m.IsSound)
    (hpending : (m.session.pending? task).isSome) (hcode : m.code task = .await :: rest) :
    .await ∉ rest := by
  obtain ⟨p, hp, hleft⟩ := Session.left_of_pending? hpending
  have hwork := h.follows.phase task p hp
  rw [hcode, hleft] at hwork
  have hrest : work rest = [.advance] := (List.cons.inj hwork).2
  intro hawait
  have hmem : .await ∈ work rest := List.mem_filter.mpr ⟨hawait, rfl⟩
  rw [hrest] at hmem
  cases List.mem_singleton.mp hmem

theorem IsSound.isDone (h : m.IsSound) (htask : task < m.next) (hcode : m.code task = []) :
    m.IsDone task := by
  refine ⟨hcode, ?_⟩
  cases hp : m.session.tasks task with
  | some p =>
      have hleft := h.follows.phase task p hp
      rw [hcode] at hleft
      exact Or.inl (Session.outcome?_of_left hp hleft.symm)
  | none =>
      rcases h.follows.glance task htask hp with ⟨glance, hlook⟩ | ⟨-, hview⟩
      · rw [hcode] at hlook
        cases hlook
      · exact Or.inr hview

/-- Whoever has a guard can go on. -/
theorem code_go_of_held? (hguard : held? (m.code task) = some lock) :
    ∃ i, m.code task = i :: (m.step (.go task)).code task := by
  rw [step_go]
  cases hcode : m.code task with
  | nil =>
      rw [hcode] at hguard
      cases hguard
  | cons i rest =>
      refine ⟨i, congrArg (i :: ·) ?_⟩
      cases i with
      | advance | look | release => exact (if_pos rfl).symm
      | acquire | await =>
          rw [hcode] at hguard
          cases hguard

/-- As long as a task is neither at its end nor waiting, there is one that can go on. -/
theorem IsOrderly.exists_go (h : m.IsOrderly) (hcode : m.code task ≠ [])
    (hwaits : (m.code task).head? ≠ some .await) :
    ∃ other i, m.code other = i :: (m.step (.go other)).code other := by
  by_cases hheld : ∃ other lock, m.Holds other lock
  · obtain ⟨other, lock, hholds⟩ := hheld
    exact ⟨other, code_go_of_held? ((h.holds_iff other lock).mp hholds)⟩
  -- Nobody has a guard, so nobody queues for one.
  have hfree : ∀ lock, (m.locks lock).guards = [] := by
    intro lock
    rw [List.eq_nil_iff_forall_not_mem]
    intro g hg
    exact hheld ⟨g.task, lock, List.mem_map_of_mem hg⟩
  have hqueue : ∀ lock, (m.locks lock).queue = [] := by
    intro lock
    by_contra hne
    exact (h.locks lock).fair.guards_ne_nil hne (hfree lock)
  refine ⟨task, ?_⟩
  rw [step_go]
  cases hi : m.code task with
  | nil => exact absurd hi hcode
  | cons i rest =>
      refine ⟨i, congrArg (i :: ·) ?_⟩
      cases i with
      | advance | look | release => exact (if_pos rfl).symm
      | await => exact absurd (congrArg List.head? hi) hwaits
      | acquire lock access =>
          have hfirst : task ∉ (m.locks lock).queue.map (·.task) := by
            rw [hqueue lock]
            exact List.not_mem_nil
          have hroom := LockState.hasRoom_nil access
          rw [← hfree lock] at hroom
          rw [perform, LockedSession.acquire, if_neg hfirst, if_pos ⟨hqueue lock, hroom⟩]
          exact (if_pos rfl).symm

/-! ## Going on until all wait or are done -/

def size (m : LockedSession) : Nat := ∑ task ∈ Finset.range m.next, (m.code task).length

theorem next_go (m : LockedSession) (task : Nat) : (m.step (.go task)).next = m.next := by
  rw [step_go]
  cases m.code task with
  | nil => rfl
  | cons i rest =>
      cases i with
      | acquire lock access => exact (m.acquire_session task lock access rest).2.2
      | _ => rfl

theorem IsSound.size_go_lt (h : m.IsSound) {i : Instruction}
    (hcode : m.code task = i :: (m.step (.go task)).code task) :
    (m.step (.go task)).size < m.size := by
  rw [size, size, next_go]
  refine Finset.sum_lt_sum (fun other _ ↦ ?_) ⟨task, ?_, ?_⟩
  · rcases h.orderly.code_go task other with heq | ⟨j, -, -, hother⟩
    · rw [heq]
    · rw [hother]
      exact Nat.le_succ _
  · exact Finset.mem_range.mpr (h.follows.lt_next (hcode ▸ List.cons_ne_nil _ _))
  · rw [hcode]
    exact Nat.lt_succ_self _

theorem IsSound.pending?_go (h : m.IsSound) (task : Nat) {c : Call}
    (hc : m.session.pending? other = some c) :
    (m.step (.go task)).session.pending? other = some c := by
  rw [step_go]
  cases hcode : m.code task with
  | nil => exact hc
  | cons i rest =>
      cases i with
      | acquire lock access =>
          rw [perform, (m.acquire_session task lock access rest).1]
          exact hc
      | release | look | await => exact hc
      | advance =>
          have hne : other ≠ task := by
            rintro rfl
            have hwaits := h.pending?_iff.mp (Option.isSome_iff_exists.mpr ⟨c, hc⟩)
            rw [hcode] at hwaits
            cases hwaits
          change (m.session.step (.advance task)).pending? other = some c
          cases hact : m.session.act? (.advance task) with
          | none => rwa [Session.step_of_act?_eq_none hact]
          | some a => rwa [Session.pending?, (Session.performs_step hact).tasks_other other hne]

/-- Tasks went on from `m` to `n`, and nothing else happened. In `n` each task is done or waits for
the reply to a call, and those that waited in `m` do so for the same one. -/
structure Settles (m n : LockedSession) : Prop where
  reached : ∃ tasks : List Nat, n = m.run (tasks.map .go)
  settled : ∀ task < n.next, n.IsDone task ∨ (n.session.pending? task).isSome
  waits : ∀ task c, m.session.pending? task = some c → n.session.pending? task = some c
  next : n.next = m.next
  /-- Whoever had to make a call or wait for one has not got over it. -/
  awaits : ∀ task, .await ∈ n.code task ↔ .await ∈ m.code task

theorem IsSound.exists_settles (h : m.IsSound) : ∃ n, m.Settles n ∧ n.IsSound := by
  induction hsize : m.size using Nat.strong_induction_on generalizing m with
  | _ size ih =>
      subst hsize
      by_cases hleft : ∃ task, m.code task ≠ [] ∧ (m.code task).head? ≠ some .await
      · obtain ⟨task, hcode, hwaits⟩ := hleft
        obtain ⟨other, i, hother⟩ := h.orderly.exists_go hcode hwaits
        obtain ⟨n, hn, hsound⟩ := ih _ (h.size_go_lt hother) (h.step (.go other)) rfl
        obtain ⟨tasks, hrun⟩ := hn.reached
        exact ⟨n,
          { reached := ⟨other :: tasks, hrun⟩
            settled := hn.settled
            waits := fun task c hc ↦ hn.waits task c (h.pending?_go other hc)
            next := hn.next.trans (m.next_go other)
            awaits := fun task ↦ (hn.awaits task).trans (h.orderly.await_mem_code_go other task) },
          hsound⟩
      · refine ⟨m, ⟨⟨[], rfl⟩, fun task htask ↦ ?_, fun _ _ ↦ id, rfl, fun _ ↦ Iff.rfl⟩, h⟩
        by_cases hcode : m.code task = []
        · exact Or.inl (h.isDone htask hcode)
        · exact Or.inr (h.pending?_iff.mpr (not_not.mp fun hwaits ↦ hleft ⟨task, hcode, hwaits⟩))

theorem session_step (m : LockedSession) (x : Move) :
    (m.step x).session = m.session ∨ ∃ y, (m.step x).session = m.session.step y := by
  cases x with
  | start job =>
      cases job with
      | operation o => exact Or.inr ⟨.start m.next o, rfl⟩
      | glance glance => exact Or.inl rfl
  | answer task reply =>
      rw [step]
      split
      · exact Or.inr ⟨.answer task reply, rfl⟩
      · exact Or.inl rfl
  | go task =>
      rw [step_go]
      cases m.code task with
      | nil => exact Or.inl rfl
      | cons i rest =>
          cases i with
          | advance => exact Or.inr ⟨.advance task, rfl⟩
          | acquire lock access => exact Or.inl (m.acquire_session task lock access rest).1
          | release | look | await => exact Or.inl rfl

/-- A task that writes has the lock for itself. -/
theorem eq_of_write_guard (form : Form) (files : FileTree) (moves : List Move) (lock : Lock) :
    ∀ g ∈ (((ofSession (.ofForm form files)).run moves).locks lock).guards, g.access = .write →
      ∀ other ∈ (((ofSession (.ofForm form files)).run moves).locks lock).guards, other = g := by
  intro g hg hwrite other hother
  have h := (isSound_ofForm form files).run moves
  exact (h.orderly.locks lock).fair.eq_of_write hg hwrite hother

/-- The steps of the session come in the order in which the locks let them happen. -/
theorem exists_session_run (m : LockedSession) (moves : List Move) :
    ∃ steps, (m.run moves).session = m.session.run steps := by
  induction moves generalizing m with
  | nil => exact ⟨[], rfl⟩
  | cons x moves ih =>
      obtain ⟨steps, hsteps⟩ := ih (m.step x)
      rcases m.session_step x with heq | ⟨y, heq⟩
      · exact ⟨steps, hsteps.trans (congrArg (Session.run · steps) heq)⟩
      · exact ⟨y :: steps, hsteps.trans (congrArg (Session.run · steps) heq)⟩

/-- Whatever happened on a form, a task that waits for a reply has no guard and wants none, and
whoever queues for a lock has no guard of another. Without any reply all tasks can go on until
each is done or waits for one. So can a task that is started then, an upload and a lookup up to
their call and the others to their end, and so can one that gets its reply. As long as
a task is neither done nor waits, one that can go on exists. -/
theorem waiting_blocks_nobody (form : Form) (files : FileTree) (moves : List Move) :
    let m := (ofSession (.ofForm form files)).run moves
    (∀ task, (m.session.pending? task).isSome →
      ∀ lock, ¬ m.Holds task lock ∧ ¬ m.Queues task lock) ∧
    (∀ task lock, m.Queues task lock → ∀ held, ¬ m.Holds task held) ∧
    (∃ n, m.Settles n) ∧
    (∀ job, ∃ n, (m.step (.start job)).Settles n ∧
      if job.makesCall then (n.session.pending? m.next).isSome = true else n.IsDone m.next) ∧
    (∀ task reply, (m.session.pending? task).isSome →
      ∃ n, (m.step (.answer task reply)).Settles n ∧ n.IsDone task) ∧
    ∀ task < m.next, ¬ m.IsDone task → m.session.pending? task = none →
      ∃ other, (m.step (.go other)).size < m.size := by
  intro m
  have h : m.IsSound := (isSound_ofForm form files).run moves
  refine ⟨fun task hpending lock ↦ ?_, fun task lock ↦ h.orderly.not_holds_of_queues, ?_,
    fun job ↦ ?_, fun task reply hpending ↦ ?_, fun task htask hdone hpending ↦ ?_⟩
  · obtain ⟨rest, hcode⟩ := List.head?_eq_some_iff.mp (h.pending?_iff.mp hpending)
    constructor
    · rw [h.orderly.holds_iff, hcode]
      exact nofun
    · intro hqueues
      obtain ⟨access, rest', hasks⟩ := h.orderly.code_of_queues hqueues
      cases hcode.symm.trans hasks
  · obtain ⟨n, hn, -⟩ := h.exists_settles
    exact ⟨n, hn⟩
  · obtain ⟨n, hn, hsound⟩ := (h.start job).exists_settles
    have hcode := hn.awaits m.next
    rw [code_start, Job.await_mem_code_iff] at hcode
    have hlt : m.next < n.next := hn.next ▸ Nat.lt_succ_self m.next
    refine ⟨n, hn, ?_⟩
    split
    · next hcalls =>
      refine (hn.settled m.next hlt).resolve_left fun hdone ↦ ?_
      have hawait := hcode.mpr hcalls
      rw [hdone.1] at hawait
      cases hawait
    · next hcalls =>
      exact (hn.settled m.next hlt).resolve_right fun hpending ↦
        hcalls (hcode.mp (hsound.await_mem_code hpending))
  · obtain ⟨rest, hcode⟩ := List.head?_eq_some_iff.mp (h.pending?_iff.mp hpending)
    obtain ⟨n, hn, hsound⟩ := (h.answer task reply).exists_settles
    have hlt : task < n.next := by
      rw [hn.next, step_answer m reply hcode]
      exact h.follows.lt_next (hcode ▸ List.cons_ne_nil _ rest)
    refine ⟨n, hn, (hn.settled task hlt).resolve_right fun hpending' ↦ ?_⟩
    have hawait := (hn.awaits task).mp (hsound.await_mem_code hpending')
    rw [step_answer m reply hcode, setCode_code, if_pos rfl] at hawait
    exact h.await_notMem_of_pending? hpending hcode hawait
  · have hcode : m.code task ≠ [] := fun hcode ↦ hdone (h.isDone htask hcode)
    have hwaits : (m.code task).head? ≠ some .await := by
      rw [Ne, ← h.pending?_iff, hpending]
      exact nofun
    obtain ⟨other, i, hother⟩ := h.orderly.exists_go hcode hwaits
    exact ⟨other, h.size_go_lt hother⟩

/-- An upload that waits, a download that reads the areas, and an edit of them that queues behind
it. -/
theorem blocks_nobody_behind_reader :
    let moves : List Move :=
      .start (.operation (.upload ⟨⟨"f", []⟩, "m", "k"⟩)) :: List.replicate 7 (.go 0) ++
        [.start (.operation (.download (Path.ofString "d"))), .go 1,
          .start (.operation (.edit (.setResponseArea "x"))), .go 2]
    let m := (ofSession (.ofForm (.ofBaseUrl "http://a") ⟨[], []⟩)).run moves
    (m.session.pending? 0).isSome ∧ m.Holds 1 .display ∧ m.Queues 2 .display ∧
      ¬ m.Holds 0 .display ∧ ¬ m.Holds 2 .fields ∧ ∃ n, m.Settles n := by
  intro moves m
  obtain ⟨hwaits, hqueues, hsettles, -⟩ :=
    waiting_blocks_nobody (.ofBaseUrl "http://a") ⟨[], []⟩ moves
  have hpending : (m.session.pending? 0).isSome := rfl
  have hqueue : m.Queues 2 .display := by decide +kernel
  exact ⟨hpending, by decide +kernel, hqueue, (hwaits 0 hpending .display).1,
    hqueues 2 .display hqueue .fields, hsettles⟩

end LockedSession

end DealForm
