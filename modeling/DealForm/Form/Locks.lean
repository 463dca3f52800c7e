import DealForm.Form.Session

/-!
# Locks

The fields and the areas of a form stand behind a lock each. A task takes the lock before it reads
or writes what stands behind it and lets go of it afterwards. Many tasks can read at once, and one
that writes is alone. Who cannot be let in at once queues up, and the queue is served in its order.

The code of a task is a list of instructions. It says where the guards are taken and dropped
between the steps of a session, so that the steps of the session come in the order in which the
locks let them happen. Nothing keeps code from taking a second lock, or from waiting for a reply,
while it has a guard.
-/

namespace DealForm

inductive Lock where
  | fields
  | display
  deriving DecidableEq, Repr

inductive Access where
  | read
  | write
  deriving DecidableEq, Repr

def maxReaders : Nat := 536870911

/-- A writer takes what all readers together could take. -/
def Access.permits : Access → Nat
  | read => 1
  | write => maxReaders

structure Guard where
  task : Nat
  access : Access
  deriving DecidableEq, Repr

structure LockState where
  guards : List Guard := []
  /-- The guards that were asked for and not given yet, the first one first. -/
  queue : List Guard := []
  deriving Repr

namespace LockState

def permits (guards : List Guard) : Nat := guards.foldr (·.access.permits + ·) 0

def HasRoom (guards : List Guard) (access : Access) : Prop :=
  permits guards + access.permits ≤ maxReaders

instance (guards : List Guard) (access : Access) : Decidable (HasRoom guards access) :=
  inferInstanceAs (Decidable (_ ≤ _))

/-- Gives guards from the front of a queue as long as there is room; also gives who got one. -/
def letIn (guards : List Guard) : List Guard → LockState × List Nat
  | [] => ({ guards }, [])
  | g :: queue =>
    if HasRoom guards g.access then
      let (l, admitted) := letIn (g :: guards) queue
      (l, g.task :: admitted)
    else ({ guards, queue := g :: queue }, [])

/-- Drops a guard of a task; also gives who got a guard then. -/
def release (l : LockState) (task : Nat) : LockState × List Nat :=
  letIn (l.guards.eraseP (·.task = task)) l.queue

end LockState

/-! ## Code -/

inductive Glance where
  | fields
  | messageArea
  | responseArea
  | downloadName
  deriving DecidableEq, Repr

inductive View where
  | fields (fields : Fields)
  | text (text : String)
  deriving Repr

namespace Glance

def lock : Glance → Lock
  | fields => .fields
  | messageArea | responseArea | downloadName => .display

def read (f : Form) : Glance → View
  | fields => .fields f.fields
  | messageArea => .text f.display.messageArea
  | responseArea => .text f.display.responseArea
  | downloadName => .text f.downloadName

end Glance

inductive Instruction where
  | acquire (lock : Lock) (access : Access)
  | release (lock : Lock)
  | advance
  | look (glance : Glance)
  | await
  deriving DecidableEq, Repr

def guarded (lock : Lock) (access : Access) (body : Instruction) : List Instruction :=
  [.acquire lock access, body, .release lock]

def Edit.lock : Edit → Lock
  | setResponseArea _ => .display
  | selectBaseUrl _ | setBaseUrl _ | setContentStatusUrl _ | setMetadata _ => .fields

def Operation.code (presets : List Preset) : Operation → List Instruction
  | edit change => guarded change.lock .write .advance
  | selectPreset key =>
    match Preset.find? presets key with
    | some _ => guarded .fields .write .advance
    | none => [.advance]
  | upload _ =>
    guarded .fields .read .advance ++ guarded .display .write .advance ++
      [.advance, .await] ++ guarded .display .write .advance
  | status _ =>
    guarded .fields .write .advance ++ [.advance, .await] ++ guarded .display .write .advance
  | download _ =>
    guarded .display .read .advance ++ guarded .display .read .advance ++ [.advance]

inductive Job where
  | operation (operation : Operation)
  | glance (glance : Glance)
  deriving Repr

def Job.code (presets : List Preset) : Job → List Instruction
  | operation o => o.code presets
  | glance g => guarded g.lock .read (.look g)

/-! ## Sessions under locks -/

structure LockedSession where
  session : Session
  code : Nat → List Instruction := fun _ ↦ []
  locks : Lock → LockState := fun _ ↦ {}
  views : Nat → Option View := fun _ ↦ none
  next : Nat := 0

inductive Move where
  | start (job : Job)
  | go (task : Nat)
  | answer (task : Nat) (reply : Reply)

namespace LockedSession

def setCode (m : LockedSession) (task : Nat) (code : List Instruction) : LockedSession :=
  { m with code := fun other ↦ if other = task then code else m.code other }

def setLock (m : LockedSession) (lock : Lock) (l : LockState) : LockedSession :=
  { m with locks := fun other ↦ if other = lock then l else m.locks other }

/-- A task asks for a lock. It goes on if nobody queues and there is room, and queues up
otherwise. One that queues already stays where it is. -/
def acquire (m : LockedSession) (task : Nat) (lock : Lock) (access : Access)
    (rest : List Instruction) : LockedSession :=
  let l := m.locks lock
  if task ∈ l.queue.map (·.task) then m
  else if l.queue = [] ∧ LockState.HasRoom l.guards access then
    (m.setCode task rest).setLock lock { l with guards := ⟨task, access⟩ :: l.guards }
  else m.setLock lock { l with queue := l.queue ++ [⟨task, access⟩] }

/-- A task drops its guard. Those who get one in turn are past the instruction that asked for
it. -/
def release (m : LockedSession) (task : Nat) (lock : Lock) (rest : List Instruction) :
    LockedSession :=
  let (l, admitted) := (m.locks lock).release task
  let m := { m with code := fun other ↦
    if other ∈ admitted then (m.code other).tail else m.code other }
  (m.setCode task rest).setLock lock l

def perform (m : LockedSession) (task : Nat) : List Instruction → LockedSession
  | [] | .await :: _ => m
  | .acquire lock access :: rest => m.acquire task lock access rest
  | .release lock :: rest => m.release task lock rest
  | .advance :: rest =>
    { m with session := m.session.step (.advance task) }.setCode task rest
  | .look glance :: rest =>
    { m with views := fun other ↦
      if other = task then some (glance.read m.session.form) else m.views other }.setCode task rest

def startJob (m : LockedSession) : Job → LockedSession
  | .operation o => { m with session := m.session.step (.start m.next o) }
  | .glance _ => m

def step (m : LockedSession) : Move → LockedSession
  | .start job =>
    { m.startJob job with next := m.next + 1 }.setCode m.next (job.code m.session.form.presets)
  | .go task => m.perform task (m.code task)
  | .answer task reply =>
    match m.code task with
    | .await :: rest =>
      { m with session := m.session.step (.answer task reply) }.setCode task rest
    | _ => m

def run (m : LockedSession) (moves : List Move) : LockedSession :=
  moves.foldl step m

def ofSession (s : Session) : LockedSession where
  session := s

def Holds (m : LockedSession) (task : Nat) (lock : Lock) : Prop :=
  task ∈ (m.locks lock).guards.map (·.task)

def Queues (m : LockedSession) (task : Nat) (lock : Lock) : Prop :=
  task ∈ (m.locks lock).queue.map (·.task)

instance (m : LockedSession) (task : Nat) (lock : Lock) : Decidable (m.Holds task lock) :=
  inferInstanceAs (Decidable (_ ∈ _))

instance (m : LockedSession) (task : Nat) (lock : Lock) : Decidable (m.Queues task lock) :=
  inferInstanceAs (Decidable (_ ∈ _))

/-- A task came to its end and gave what it was started for. -/
def IsDone (m : LockedSession) (task : Nat) : Prop :=
  m.code task = [] ∧ ((m.session.outcome? task).isSome ∨ (m.views task).isSome)

end LockedSession

end DealForm
