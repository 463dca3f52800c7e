import DealForm.Form.Locks
import DealForm.Proofs.Session.History
import Mathlib.Algebra.Order.BigOperators.Group.List
import Mathlib.Algebra.Order.Ring.Nat
import Mathlib.Data.List.Nodup

/-!
# Guards and code

What guards a task has can be read off what is left of its code, as all code here takes one lock
at a time, drops the guard before it takes the next one and makes its call without any. Shown for
every step, this says who can stand in a queue and who can keep others there.
-/

namespace DealForm

/-! ## Queues -/

namespace LockState

variable {guards queue : List Guard} {l : LockState} {task : Nat}

/-- What makes a lock one: what was given fits, and the queue waits for a reason. -/
structure IsFair (l : LockState) : Prop where
  within : permits l.guards ≤ maxReaders
  full : ∀ g queue, l.queue = g :: queue → ¬ HasRoom l.guards g.access

theorem isFair_empty : ({} : LockState).IsFair where
  within := Nat.zero_le _
  full _ _ h := by cases h

theorem hasRoom_nil (access : Access) : HasRoom [] access := by
  cases access <;> decide

theorem permits_cons (g : Guard) (guards : List Guard) :
    permits (g :: guards) = permits guards + g.access.permits := Nat.add_comm _ _

theorem permits_eq_sum (guards : List Guard) :
    permits guards = (guards.map (·.access.permits)).sum := by
  induction guards with
  | nil => rfl
  | cons g guards ih => rw [permits_cons, ih, List.map_cons, List.sum_cons, Nat.add_comm]

theorem IsFair.guards_ne_nil (h : l.IsFair) (hqueue : l.queue ≠ []) : l.guards ≠ [] := by
  intro hnil
  obtain ⟨g, queue, heq⟩ := List.exists_cons_of_ne_nil hqueue
  refine h.full g queue heq ?_
  rw [hnil]
  exact hasRoom_nil g.access

/-- A writer is alone. -/
theorem IsFair.eq_of_write (h : l.IsFair) {g other : Guard} (hg : g ∈ l.guards)
    (hwrite : g.access = .write) (hother : other ∈ l.guards) : other = g := by
  by_contra hne
  have hmem : other ∈ l.guards.erase g := (List.mem_erase_of_ne hne).mpr hother
  have hsum : permits l.guards = permits (l.guards.erase g) + g.access.permits := by
    rw [← permits_cons, permits_eq_sum, permits_eq_sum]
    exact ((List.perm_cons_erase hg).map _).sum_eq
  have hone : 1 ≤ other.access.permits := by cases other.access <;> decide
  have hle : other.access.permits ≤ permits (l.guards.erase g) := by
    rw [permits_eq_sum]
    exact List.single_le_sum (fun _ _ ↦ Nat.zero_le _) _ (List.mem_map_of_mem hmem)
  have hall : g.access.permits = maxReaders := by rw [hwrite, Access.permits]
  have := h.within
  omega

theorem letIn_spec (h : permits guards ≤ maxReaders) :
    ∃ front, queue = front ++ (letIn guards queue).1.queue ∧
      (letIn guards queue).1.guards = front.reverse ++ guards ∧
      (letIn guards queue).2 = front.map (·.task) ∧ (letIn guards queue).1.IsFair := by
  induction queue generalizing guards with
  | nil => exact ⟨[], rfl, rfl, rfl, h, fun _ _ hnil ↦ by cases hnil⟩
  | cons g queue ih =>
      rw [letIn]
      split
      · next hroom =>
        obtain ⟨front, hqueue, hguards, htasks, hfair⟩ :=
          ih ((permits_cons g guards).trans_le hroom)
        refine ⟨g :: front, congrArg (g :: ·) hqueue, ?_, congrArg (g.task :: ·) htasks, hfair⟩
        rw [hguards, List.reverse_cons, List.append_assoc, List.singleton_append]
      · next hroom =>
        refine ⟨[], rfl, rfl, rfl, h, fun _ _ hcons ↦ ?_⟩
        cases hcons
        exact hroom

theorem release_spec (h : l.IsFair) (task : Nat) :
    ∃ front, l.queue = front ++ (l.release task).1.queue ∧
      (l.release task).1.guards = front.reverse ++ l.guards.eraseP (·.task = task) ∧
      (l.release task).2 = front.map (·.task) ∧ (l.release task).1.IsFair := by
  have hle : permits (l.guards.eraseP (·.task = task)) ≤ permits l.guards := by
    rw [permits_eq_sum, permits_eq_sum]
    exact (l.guards.eraseP_sublist.map _).sum_le_sum fun _ _ ↦ Nat.zero_le _
  exact letIn_spec (hle.trans h.within)

end LockState

/-! ## Code that keeps one guard at a time -/

namespace Instruction

variable {code rest : List Instruction} {lock : Lock} {access : Access}

/-- The lock whose guard code drops next, before it takes another one or waits. -/
def held? : List Instruction → Option Lock
  | .advance :: rest | .look _ :: rest => held? rest
  | .release lock :: _ => some lock
  | _ => none

/-- Code that takes a lock when it has none, drops the guard it has, and waits with none and
right after its call. -/
def IsOrderly : List Instruction → Prop
  | [] => True
  | .acquire lock _ :: rest => held? rest = some lock ∧ IsOrderly rest
  | .release _ :: rest => held? rest = none ∧ rest.head? ≠ some .await ∧ IsOrderly rest
  | .await :: rest => held? rest = none ∧ IsOrderly rest
  | .advance :: rest | .look _ :: rest => IsOrderly rest

def work (code : List Instruction) : List Instruction :=
  code.filter fun
    | .acquire .. | .release _ => false
    | _ => true

theorem work_cons (i : Instruction) (code : List Instruction) :
    work (i :: code) = work [i] ++ work code := List.filter_append [i] code

theorem IsOrderly.tail (h : IsOrderly code) : IsOrderly code.tail := by
  match code with
  | [] => exact h
  | .acquire .. :: _ => exact h.2
  | .release _ :: _ => exact h.2.2
  | .await :: _ => exact h.2
  | .advance :: _ | .look _ :: _ => exact h

/-- Where the next thing to do is to wait, it is the next instruction too. -/
theorem IsOrderly.head?_eq_await (h : IsOrderly code) (hwork : (work code).head? = some .await) :
    code.head? = some .await := by
  induction code with
  | nil => cases hwork
  | cons i rest ih =>
      cases i with
      | await => rfl
      | advance | look => cases hwork
      | release lock => exact absurd (ih h.2.2 hwork) h.2.1
      | acquire lock access =>
          obtain ⟨rest, rfl⟩ := List.head?_eq_some_iff.mp (ih h.2 hwork)
          cases h.1

end Instruction

open Instruction

theorem Operation.isOrderly_code (presets : List Preset) (o : Operation) :
    held? (o.code presets) = none ∧ IsOrderly (o.code presets) := by
  cases o with
  | selectPreset key =>
      rw [Operation.code]
      split <;> simp [guarded, held?, IsOrderly]
  | _ => simp [Operation.code, guarded, held?, IsOrderly]

theorem Job.isOrderly_code (presets : List Preset) (j : Job) :
    held? (j.code presets) = none ∧ IsOrderly (j.code presets) := by
  cases j with
  | operation o => exact o.isOrderly_code presets
  | glance g => simp [Job.code, guarded, held?, IsOrderly]

/-! ## Who has a guard -/

namespace LockState

variable {code code' : Nat → List Instruction} {rest : List Instruction} {lock : Lock}
  {access : Access} {l : LockState} {task other : Nat}

/-- The guards and the queue of a lock are as the code of the tasks says. -/
structure Agrees (code : Nat → List Instruction) (lock : Lock) (l : LockState) : Prop where
  mem_guards_iff : ∀ task, task ∈ l.guards.map (·.task) ↔ held? (code task) = some lock
  once : ((l.guards ++ l.queue).map (·.task)).Nodup
  asks : ∀ g ∈ l.queue, ∃ rest, code g.task = .acquire lock g.access :: rest
  fair : l.IsFair

/-- Code that has the same guards can take the place of the old one. -/
theorem Agrees.congr (h : l.Agrees code lock)
    (hguard : ∀ task, held? (code' task) = some lock ↔ held? (code task) = some lock)
    (hasks : ∀ task access rest, code task = .acquire lock access :: rest →
      code' task = code task) : l.Agrees code' lock where
  mem_guards_iff task := (h.mem_guards_iff task).trans (hguard task).symm
  once := h.once
  asks g hg := by
    obtain ⟨rest, hrest⟩ := h.asks g hg
    exact ⟨rest, (hasks g.task g.access rest hrest).trans hrest⟩
  fair := h.fair

theorem Agrees.not_mem_guards (h : l.Agrees code lock)
    (hcode : code task = .acquire lock access :: rest) : task ∉ l.guards.map (·.task) := by
  rw [h.mem_guards_iff, hcode]
  exact nofun

/-- A task gets a guard. -/
theorem Agrees.grant (h : l.Agrees code lock) (hcode : code task = .acquire lock access :: rest)
    (hrest : held? rest = some lock) (hqueue : l.queue = []) (hroom : HasRoom l.guards access) :
    Agrees (fun other ↦ if other = task then rest else code other) lock
      { l with guards := ⟨task, access⟩ :: l.guards } where
  mem_guards_iff other := by
    rw [List.map_cons, List.mem_cons]
    split
    · next heq => exact iff_of_true (Or.inl heq) hrest
    · next hne => exact (or_iff_right hne).trans (h.mem_guards_iff other)
  once := by
    have honce := h.once
    rw [hqueue, List.append_nil] at honce ⊢
    exact List.nodup_cons.mpr ⟨h.not_mem_guards hcode, honce⟩
  asks g hg := by
    rw [hqueue] at hg
    cases hg
  fair := by
    refine ⟨(permits_cons _ _).trans_le hroom, fun g queue hg ↦ ?_⟩
    cases hqueue.symm.trans hg

/-- A task queues up. -/
theorem Agrees.enqueue (h : l.Agrees code lock) (hcode : code task = .acquire lock access :: rest)
    (hqueues : task ∉ l.queue.map (·.task)) (hfull : ¬ (l.queue = [] ∧ HasRoom l.guards access)) :
    Agrees code lock { l with queue := l.queue ++ [⟨task, access⟩] } where
  mem_guards_iff := h.mem_guards_iff
  once := by
    rw [← List.append_assoc, List.map_append]
    refine List.nodup_append.mpr ⟨h.once, List.nodup_singleton _, ?_⟩
    rintro other hother _ hnew rfl
    obtain rfl : other = task := by simpa using hnew
    rw [List.map_append, List.mem_append] at hother
    exact hother.elim (h.not_mem_guards hcode) hqueues
  asks g hg := by
    rcases List.mem_append.mp hg with hg | hg
    · exact h.asks g hg
    · obtain rfl := List.mem_singleton.mp hg
      exact ⟨rest, hcode⟩
  fair := by
    refine ⟨h.fair.within, fun g queue hg ↦ ?_⟩
    cases hqueue : l.queue with
    | nil =>
        simp only [hqueue, List.nil_append, List.cons.injEq] at hg
        obtain ⟨rfl, -⟩ := hg
        exact fun hroom ↦ hfull ⟨hqueue, hroom⟩
    | cons first others =>
        simp only [hqueue, List.cons_append, List.cons.injEq] at hg
        exact hg.1 ▸ h.fair.full first others hqueue

theorem mem_eraseP_iff {guards : List Guard} (h : (guards.map (·.task)).Nodup) (task other : Nat) :
    other ∈ (guards.eraseP (·.task = task)).map (·.task) ↔
      other ≠ task ∧ other ∈ guards.map (·.task) := by
  have herase : (guards.eraseP (·.task = task)).map (·.task) =
      (guards.map (·.task)).erase task := by
    rw [List.erase_eq_eraseP, List.eraseP_map]
    congr 2
    funext g
    rw [Function.comp_apply, beq_eq_decide, decide_eq_decide]
    exact eq_comm
  rw [herase, h.mem_erase_iff]

/-- What is left of the code of each task when one of them drops its guard. -/
def codeAfterRelease (code : Nat → List Instruction) (l : LockState) (task : Nat)
    (rest : List Instruction) (other : Nat) : List Instruction :=
  if other = task then rest
  else if other ∈ (l.release task).2 then (code other).tail else code other

/-- Who gets a guard in turn was asking for it. -/
theorem Agrees.asks_of_admitted (h : l.Agrees code lock) (hother : other ∈ (l.release task).2) :
    ∃ access rest, code other = .acquire lock access :: rest := by
  obtain ⟨front, hqueue, -, htasks, -⟩ := release_spec h.fair task
  rw [htasks] at hother
  obtain ⟨g, hg, rfl⟩ := List.mem_map.mp hother
  obtain ⟨rest, hrest⟩ := h.asks g (hqueue ▸ List.mem_append_left _ hg)
  exact ⟨g.access, rest, hrest⟩

/-- A task drops its guard, and others get one in turn. -/
theorem Agrees.release (h : l.Agrees code lock) (hcode : code task = .release lock :: rest)
    (hrest : held? rest = none)
    (hothers : ∀ other access rest, code other = .acquire lock access :: rest →
      held? rest = some lock) :
    (l.release task).1.Agrees (codeAfterRelease code l task rest) lock := by
  obtain ⟨front, hqueue, hguards, htasks, hfair⟩ := release_spec h.fair task
  have honce := h.once
  rw [List.map_append, List.nodup_append] at honce
  have hadmitted : ∀ {other}, other ∈ (l.release task).2 → other ≠ task := by
    rintro other hother rfl
    obtain ⟨access, rest', hasks⟩ := h.asks_of_admitted hother
    cases hcode.symm.trans hasks
  refine ⟨fun other ↦ ?_, ?_, fun g hg ↦ ?_, hfair⟩
  · have hguards' : other ∈ (l.release task).1.guards.map (·.task) ↔
        other ∈ (l.release task).2 ∨ other ≠ task ∧ other ∈ l.guards.map (·.task) := by
      rw [hguards, htasks, List.map_append, List.mem_append, List.map_reverse, List.mem_reverse,
        mem_eraseP_iff honce.1]
    rw [hguards', codeAfterRelease]
    split
    · next heq =>
      refine iff_of_false ?_ (by rw [hrest]; exact nofun)
      rintro (hother | ⟨hne, -⟩)
      · exact hadmitted hother heq
      · exact hne heq
    · next hne =>
      split
      · next hother =>
        obtain ⟨access, rest', hasks⟩ := h.asks_of_admitted hother
        rw [hasks]
        exact iff_of_true (Or.inl hother) (hothers other access rest' hasks)
      · next hother =>
        rw [or_iff_right hother, and_iff_right hne]
        exact h.mem_guards_iff other
  · have hperm : ((l.release task).1.guards ++ (l.release task).1.queue).Perm
        (l.guards.eraseP (·.task = task) ++ l.queue) := by
      rw [hguards, hqueue, ← List.append_assoc]
      exact ((front.reverse_perm.append_right _).trans List.perm_append_comm).append_right _
    rw [(hperm.map _).nodup_iff]
    exact h.once.sublist ((l.guards.eraseP_sublist.append_right _).map _)
  · have hg' : g ∈ l.queue := hqueue ▸ List.mem_append_right _ hg
    obtain ⟨rest', hasks⟩ := h.asks g hg'
    refine ⟨rest', ?_⟩
    rw [codeAfterRelease, if_neg, if_neg, hasks]
    · rw [htasks]
      have hqueues := honce.2.1
      rw [hqueue, List.map_append, List.nodup_append] at hqueues
      exact fun hfront ↦ hqueues.2.2 _ hfront _ (List.mem_map_of_mem hg) rfl
    · rintro rfl
      cases hcode.symm.trans hasks

/-- The other lock does not notice. -/
theorem Agrees.release_other {k : Lock} {l' : LockState} (h : l.Agrees code lock)
    (h' : l'.Agrees code k) (hk : k ≠ lock) (hcode : code task = .release lock :: rest)
    (hrest : held? rest = none)
    (hothers : ∀ other access rest, code other = .acquire lock access :: rest →
      held? rest = some lock) :
    l'.Agrees (codeAfterRelease code l task rest) k := by
  have hne : some lock ≠ some k := fun heq ↦ hk (Option.some.inj heq).symm
  refine h'.congr (fun other ↦ ?_) fun other access rest' hother ↦ ?_
  · rw [codeAfterRelease]
    split
    · next heq =>
      rw [hrest, heq, hcode]
      exact iff_of_false nofun hne
    · split
      · next hother =>
        obtain ⟨access, rest', hasks⟩ := h.asks_of_admitted hother
        rw [hasks, List.tail_cons, hothers other access rest' hasks]
        exact iff_of_false hne nofun
      · exact Iff.rfl
  · rw [codeAfterRelease, if_neg, if_neg]
    · intro hadmitted
      obtain ⟨access', rest'', hasks⟩ := h.asks_of_admitted hadmitted
      cases hasks.symm.trans hother
      exact hk rfl
    · rintro rfl
      cases hcode.symm.trans hother

end LockState

namespace LockedSession

variable {m : LockedSession} {task other : Nat} {lock : Lock} {access : Access}
  {code rest : List Instruction}

structure IsOrderly (m : LockedSession) : Prop where
  code : ∀ task, Instruction.IsOrderly (m.code task)
  locks : ∀ lock, (m.locks lock).Agrees m.code lock

theorem isOrderly_ofSession (s : Session) : (ofSession s).IsOrderly where
  code _ := trivial
  locks _ :=
    { mem_guards_iff := fun _ ↦ by simp [ofSession, held?]
      once := List.nodup_nil
      asks := fun _ hg ↦ absurd hg List.not_mem_nil
      fair := LockState.isFair_empty }

theorem IsOrderly.holds_iff (h : m.IsOrderly) (task : Nat) (lock : Lock) :
    m.Holds task lock ↔ held? (m.code task) = some lock :=
  (h.locks lock).mem_guards_iff task

/-- Who stands in a queue is about to take the lock. -/
theorem IsOrderly.code_of_queues (h : m.IsOrderly) (hqueues : m.Queues task lock) :
    ∃ access rest, m.code task = .acquire lock access :: rest := by
  obtain ⟨g, hg, rfl⟩ := List.mem_map.mp hqueues
  obtain ⟨rest, hrest⟩ := (h.locks lock).asks g hg
  exact ⟨g.access, rest, hrest⟩

/-- Who stands in a queue has no guard. -/
theorem IsOrderly.not_holds_of_queues (h : m.IsOrderly) (hqueues : m.Queues task lock)
    (held : Lock) : ¬ m.Holds task held := by
  obtain ⟨access, rest, hcode⟩ := h.code_of_queues hqueues
  rw [h.holds_iff, hcode]
  exact nofun

theorem setCode_code (m : LockedSession) (task : Nat) (code : List Instruction) (other : Nat) :
    (m.setCode task code).code other = if other = task then code else m.code other := rfl

theorem setLock_locks (m : LockedSession) (lock : Lock) (l : LockState) (other : Lock) :
    (m.setLock lock l).locks other = if other = lock then l else m.locks other := rfl

/-- One lock and the code change, and the other locks do not notice. -/
theorem IsOrderly.setLock {l : LockState} (hcode : ∀ task, Instruction.IsOrderly (m.code task))
    (hl : l.Agrees m.code lock) (hothers : ∀ k ≠ lock, (m.locks k).Agrees m.code k) :
    (m.setLock lock l).IsOrderly where
  code := hcode
  locks k := by
    rw [setLock_locks]
    split
    · next heq => exact heq ▸ hl
    · next hne => exact hothers k hne

/-- Code that has the same guard can take the place of the old one. -/
theorem IsOrderly.setCode (h : m.IsOrderly) (hcode : Instruction.IsOrderly code)
    (hguard : held? code = held? (m.code task))
    (hasks : ∀ lock access rest, m.code task ≠ .acquire lock access :: rest) :
    (m.setCode task code).IsOrderly where
  code other := by
    rw [setCode_code]
    split
    · exact hcode
    · exact h.code other
  locks lock := by
    refine (h.locks lock).congr (fun other ↦ ?_) fun other access rest hother ↦ ?_
    · rw [setCode_code]
      split
      · next heq => rw [heq, hguard]
      · exact Iff.rfl
    · rw [setCode_code, if_neg]
      rintro rfl
      exact hasks lock access rest hother

theorem IsOrderly.acquire (h : m.IsOrderly)
    (hcode : m.code task = .acquire lock access :: rest) :
    (m.acquire task lock access rest).IsOrderly := by
  have htask := h.code task
  rw [hcode] at htask
  unfold LockedSession.acquire
  dsimp only
  split
  · exact h
  · next hqueues =>
    split
    · next hfree =>
      refine IsOrderly.setLock (fun other ↦ ?_)
        ((h.locks lock).grant hcode htask.1 hfree.1 hfree.2) fun k hk ↦ ?_
      · rw [setCode_code]
        split
        · exact htask.2
        · exact h.code other
      · refine (h.locks k).congr (fun other ↦ ?_) fun other access rest' hother ↦ ?_
        · rw [setCode_code]
          split
          · next heq =>
            rw [heq, htask.1, hcode]
            exact iff_of_false (fun hlock ↦ hk (Option.some.inj hlock).symm) nofun
          · exact Iff.rfl
        · rw [setCode_code, if_neg]
          rintro rfl
          cases hcode.symm.trans hother
          exact hk rfl
    · next hfull =>
      exact IsOrderly.setLock h.code ((h.locks lock).enqueue hcode hqueues hfull)
        fun k _ ↦ h.locks k

theorem IsOrderly.release (h : m.IsOrderly) (hcode : m.code task = .release lock :: rest) :
    (m.release task lock rest).IsOrderly := by
  have htask := h.code task
  rw [hcode] at htask
  have hothers : ∀ other access rest, m.code other = .acquire lock access :: rest →
      held? rest = some lock := by
    intro other access rest hother
    have hcode := h.code other
    rw [hother] at hcode
    exact hcode.1
  refine IsOrderly.setLock (fun other ↦ ?_) ((h.locks lock).release hcode htask.1 hothers)
    fun k hk ↦ (h.locks lock).release_other (h.locks k) hk hcode htask.1 hothers
  rw [setCode_code]
  dsimp only
  split
  · exact htask.2.2
  · split
    · exact (h.code other).tail
    · exact h.code other

end LockedSession

end DealForm
