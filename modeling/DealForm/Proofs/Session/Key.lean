import DealForm.Proofs.Session.Translation
import Mathlib.Data.List.Forall2

/-!
# Sessions do not read keys

A key goes from the operation that brings it to the call that carries it and nowhere else. To put
other keys in the place of all of them before a run or after it is the same, whatever answers the
calls. So runs that differ in keys alone differ only in what their uploads carry.
-/

namespace DealForm

variable {g : String → String}

def UploadInput.withKey (input : UploadInput) (key : String) : UploadInput :=
  { input with apiKey := key }

def UploadRequest.withKey (r : UploadRequest) (key : String) : UploadRequest :=
  { r with input := r.input.withKey key }

/-! ## Other keys in the place of all -/

def UploadRequest.rekey (g : String → String) (r : UploadRequest) : UploadRequest :=
  r.withKey (g r.input.apiKey)

def Call.rekey (g : String → String) : Call → Call
  | .upload r => .upload (r.rekey g)
  | .status r => .status r

def Operation.rekey (g : String → String) : Operation → Operation
  | .upload input => .upload (input.withKey (g input.apiKey))
  | operation => operation

def Step.rekey (g : String → String) : Step → Step
  | .start task operation => .start task (operation.rekey g)
  | x => x

def Phase.rekey (g : String → String) : Phase → Phase
  | .uploadSubmitted input => .uploadSubmitted (input.withKey (g input.apiKey))
  | .uploadComposed r => .uploadComposed (r.rekey g)
  | .uploadAnnounced r => .uploadAnnounced (r.rekey g)
  | .uploadWaiting r => .uploadWaiting (r.rekey g)
  | .uploadAnswered r reply => .uploadAnswered (r.rekey g) reply
  | p => p

namespace Session

variable {s t : Session} {task : Nat} {x : Step}

def rekey (g : String → String) (s : Session) : Session :=
  { s with
    tasks := fun task ↦ (s.tasks task).map (Phase.rekey g)
    calls := s.calls.map fun c ↦ (c.1, c.2.rekey g) }

/-- Other keys stand in the place of all keys. -/
def rekeying (g : String → String) : Translation where
  phase := Phase.rekey g
  call := Call.rekey g
  operation := Operation.rekey g
  firstPhase_operation operation := by cases operation <;> rfl
  phase_eq_ended p outcome := by cases p <;> simp [Phase.rekey]

theorem rekeying_step (x : Step) : (rekeying g).step x = x.rekey g := by
  cases x <;> rfl

theorem rekey_advanceFrom (s : Session) (task : Nat) (p : Phase) :
    (s.rekey g).advanceFrom task (p.rekey g) = (s.advanceFrom task p).rekey g := by
  cases p with
  | editing change => exact (rekeying g).session_makeEdit s task change
  | choosing key =>
      have hform : (s.rekey g).form = s.form := rfl
      simp only [Phase.rekey, advanceFrom, hform]
      split
      · exact (rekeying g).session_makeEdit s task _
      · exact (rekeying g).session_end (by rfl) task _
  | uploadAnnounced | statusComposed =>
      exact (rekeying g).session_enter ((rekeying g).session_call (by rfl) (by rfl) task)
        (by rfl) task
  | downloadNamed file text => exact (rekeying g).session_save s task file text
  | uploadWaiting | statusWaiting | ended => rfl
  | _ => exact (rekeying g).session_enter (by rfl) (by rfl) task

theorem rekey_answerFrom (s : Session) (task : Nat) (reply : Reply) (p : Phase) :
    (s.rekey g).answerFrom task reply (p.rekey g) = (s.answerFrom task reply p).rekey g := by
  cases p with
  | uploadWaiting | statusWaiting => exact (rekeying g).session_enter (by rfl) (by rfl) task
  | _ => rfl

theorem commutes_rekeying (g : String → String) (s : Session) : (rekeying g).Commutes s :=
  ⟨rekey_advanceFrom s, rekey_answerFrom s⟩

theorem rekey_step (s : Session) (x : Step) :
    (s.rekey g).step (x.rekey g) = (s.step x).rekey g := by
  rw [← rekeying_step]
  exact (commutes_rekeying g s).step x

theorem rekey_run (s : Session) (steps : List Step) :
    (s.rekey g).run (steps.map (Step.rekey g)) = (s.run steps).rekey g := by
  have hsteps : Step.rekey g = (rekeying g).step := funext fun x ↦ (rekeying_step x).symm
  rw [hsteps]
  exact Translation.session_run (P := fun _ ↦ True) (fun _ _ h ↦ h)
    (fun s _ ↦ commutes_rekeying g s) trivial steps

theorem rekey_note (s : Session) (events : List LogEvent) :
    (s.note events).rekey g = (s.rekey g).note events := rfl

theorem pending?_rekey (s : Session) (task : Nat) :
    (s.rekey g).pending? task = (s.pending? task).map (Call.rekey g) := by
  have htask : (s.rekey g).tasks task = (s.tasks task).map (Phase.rekey g) := rfl
  rw [pending?, pending?, htask]
  cases s.tasks task with
  | none => rfl
  | some p => cases p <;> rfl

theorem outcome?_rekey (s : Session) (task : Nat) :
    (s.rekey g).outcome? task = s.outcome? task :=
  (rekeying g).outcome?_session s task

end Session

/-! ## Runs that differ in keys -/

/-- The calls are the same, but those of uploads may carry different keys. -/
def Call.SameButKey (c d : Call) : Prop :=
  d = c ∨ ∃ r key, c = .upload r ∧ d = .upload (r.withKey key)

theorem UploadRequest.eq_withKey {r r' : UploadRequest} (h : r.rekey g = r'.rekey g) :
    r' = r.withKey r'.input.apiKey := by
  have hkey : (r.rekey g).withKey r'.input.apiKey = (r'.rekey g).withKey r'.input.apiKey := by
    rw [h]
  exact hkey.symm

theorem Call.sameButKey_of_rekey {c d : Call} (h : c.rekey g = d.rekey g) : c.SameButKey d := by
  cases c with
  | upload r =>
      cases d with
      | upload r' =>
          refine Or.inr ⟨r, r'.input.apiKey, rfl, ?_⟩
          rw [← UploadRequest.eq_withKey (Call.upload.inj h)]
      | status r' => cases h
  | status r =>
      cases d with
      | upload r' => cases h
      | status r' => exact Or.inl h.symm

/-- The steps are the same, but an upload may bring another key, to which the first one stands in
this relation. -/
inductive Step.SameButKey (accepts : String → String → Prop) : Step → Step → Prop
  | refl (x : Step) : SameButKey accepts x x
  | upload (task : Nat) (input : UploadInput) (key : String) (h : accepts input.apiKey key) :
      SameButKey accepts (.start task (.upload input)) (.start task (.upload (input.withKey key)))

theorem Step.SameButKey.rekey_eq {accepts : String → String → Prop}
    (hg : ∀ key key', accepts key key' → g key = g key') {x y : Step}
    (h : x.SameButKey accepts y) : x.rekey g = y.rekey g := by
  cases h with
  | refl => rfl
  | upload task input key h =>
      have hkey := hg _ _ h
      exact congrArg (fun key ↦ Step.start task (.upload (input.withKey key))) hkey

namespace Session

variable {s t : Session}

/-- The sessions show the same, have the same files and log, their tasks ended alike, and they made
the same calls in the same order, but for keys. -/
structure SameButKeys (s t : Session) : Prop where
  form : t.form = s.form
  files : t.files = s.files
  log : t.log = s.log
  outcome : ∀ task, t.outcome? task = s.outcome? task
  calls : List.Forall₂ (fun c d ↦ d.1 = c.1 ∧ c.2.SameButKey d.2) s.calls t.calls

theorem sameButKeys_of_rekey (h : s.rekey g = t.rekey g) : s.SameButKeys t where
  form := (congrArg Session.form h).symm
  files := (congrArg Session.files h).symm
  log := (congrArg Session.log h).symm
  outcome task := by rw [← outcome?_rekey t, ← h, outcome?_rekey]
  calls := by
    have hcalls : s.calls.map (fun c ↦ (c.1, c.2.rekey g)) =
        t.calls.map fun c ↦ (c.1, c.2.rekey g) := congrArg Session.calls h
    rw [← List.forall₂_eq_eq_eq, List.forall₂_map_left_iff, List.forall₂_map_right_iff] at hcalls
    refine hcalls.imp fun c d hcd ↦ ?_
    obtain ⟨htask, hcall⟩ := Prod.mk.inj hcd
    exact ⟨htask.symm, Call.sameButKey_of_rekey hcall⟩

theorem sameButKeys_run (s : Session) {xs ys : List Step}
    (h : List.Forall₂ (Step.SameButKey fun _ _ ↦ True) xs ys) :
    (s.run xs).SameButKeys (s.run ys) := by
  have hsteps : xs.map (Step.rekey fun _ ↦ "") = ys.map (Step.rekey fun _ ↦ "") := by
    induction h with
    | nil => rfl
    | cons hx _ ih =>
        rw [List.map_cons, List.map_cons, ih, hx.rekey_eq fun _ _ _ ↦ rfl]
  apply sameButKeys_of_rekey (g := fun _ ↦ "")
  rw [← rekey_run, ← rekey_run, hsteps]

end Session

end DealForm
