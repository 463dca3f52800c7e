import DealForm.Proofs.Http.Credentials
import DealForm.Proofs.Http.Session

/-!
# A key stays in its upload

Runs that differ only in the keys of their uploads show the same, save the same and ask the same of
the service. Over HTTP their requests are the same too, but for the bearer header of the requests
that an upload sends, where each run has its own key of that upload.
-/

namespace DealForm

/-- The step of another run is the same, but an upload may bring another key, where both can be sent
or neither. -/
inductive HttpStep.SameButKey : HttpStep → HttpStep → Prop
  | work {x y : Step} (h : x.SameButKey SameAcceptance y) : SameButKey (.work x) (.work y)
  | refl (x : HttpStep) : SameButKey x x

/-- The exchanges are the same, but the transfer of an upload carries the key of its own call. -/
structure Exchange.SameButKey (e e' : Exchange) : Prop where
  call : e.call.rekey maskedKey = e'.call.rekey maskedKey
  transfer : e'.transfer = e.transfer.mapHeaders (e.call.rekeying e'.call)

/-- The same request was sent for the same call of the same task, but for the key of the call: it
stands in the header that carries it and in nothing else. -/
def Sent.SameButKey (e e' : Sent) : Prop :=
  e'.task = e.task ∧ (e' = e ∨ ∃ r key, e.call = .upload r ∧ e'.call = .upload (r.withKey key) ∧
    e'.request = e.request.mapHeaders (Header.rekey r.input.apiKey key))

theorem Sent.sameButKey_of_rekey {c d : Call} (h : c.rekey maskedKey = d.rekey maskedKey)
    (task : Nat) (t : Transfer) :
    Sent.SameButKey ⟨task, c, t.request⟩ ⟨task, d, t.request.mapHeaders (c.rekeying d)⟩ := by
  refine ⟨rfl, ?_⟩
  cases c with
  | upload r =>
      cases d with
      | upload r' =>
          have hr' := UploadRequest.eq_withKey (Call.upload.inj h)
          exact Or.inr ⟨r, r'.input.apiKey, rfl, congrArg Call.upload hr', rfl⟩
      | status r' => cases h
  | status r =>
      cases d with
      | upload r' => cases h
      | status r' =>
          cases h
          refine Or.inl (congrArg (Sent.mk task (.status r)) ?_)
          exact t.request.mapHeaders_id

namespace HttpSession

variable {s t : HttpSession} {task : Nat}

/-- The sessions are the same but for the keys of uploads. -/
structure SameButKeys (s t : HttpSession) : Prop where
  session : s.session.rekey maskedKey = t.session.rekey maskedKey
  exchanges : ∀ task, Option.Rel Exchange.SameButKey (s.exchanges task) (t.exchanges task)
  sent : List.Forall₂ Sent.SameButKey s.sent t.sent

namespace SameButKeys

theorem pending? (h : s.SameButKeys t) (task : Nat) :
    Option.Rel (fun c d : Call ↦ c.rekey maskedKey = d.rekey maskedKey)
      (s.session.pending? task) (t.session.pending? task) := by
  have hsame : (s.session.pending? task).map (Call.rekey maskedKey) =
      (t.session.pending? task).map (Call.rekey maskedKey) := by
    rw [← Session.pending?_rekey, ← Session.pending?_rekey, h.session]
  generalize s.session.pending? task = c, t.session.pending? task = d at hsame
  cases c with
  | none =>
      rw [Option.map_eq_none_iff.mp hsame.symm]
      exact .none
  | some c =>
      obtain ⟨d, rfl, hd⟩ := Option.map_eq_some_iff.mp hsame.symm
      exact .some hd.symm

theorem sendOn (h : s.SameButKeys t) {e e' : Exchange} (he : e.SameButKey e') (task : Nat) :
    (s.sendOn task e).SameButKeys (t.sendOn task e') where
  session := h.session
  exchanges other := by
    simp only [HttpSession.sendOn]
    split
    · exact .some he
    · exact h.exchanges other
  sent := by
    refine List.rel_append h.sent (.cons ?_ .nil)
    rw [he.transfer]
    exact Sent.sameButKey_of_rekey he.call task e.transfer

theorem work (h : s.SameButKeys t) {x y : Step} (hx : x.SameButKey SameAcceptance y) :
    SameButKeys { s with session := s.session.step x } { t with session := t.session.step y } where
  session := by
    have hrekey := hx.rekey_eq (g := maskedKey) fun key key' h ↦ maskedKey_eq h
    rw [← Session.rekey_step, ← Session.rekey_step, h.session, hrekey]
  exchanges := h.exchanges
  sent := h.sent

theorem note (h : s.SameButKeys t) (events : List LogEvent) :
    SameButKeys { s with session := s.session.note events }
      { t with session := t.session.note events } where
  session := by rw [Session.rekey_note, Session.rekey_note, h.session]
  exchanges := h.exchanges
  sent := h.sent

theorem settle (h : s.SameButKeys t) (task : Nat) (served : Served) :
    (s.settle task served).SameButKeys (t.settle task served) := by
  have hstep := (h.note served.events).work (.refl (.answer task served.reply))
  refine ⟨hstep.session, fun other ↦ ?_, hstep.sent⟩
  simp only [HttpSession.settle]
  split
  · exact .none
  · exact h.exchanges other

theorem depart (h : s.SameButKeys t) {c d : Call} (hcall : c.rekey maskedKey = d.rekey maskedKey)
    (task : Nat) (boundary : String) :
    (s.depart task c boundary).SameButKeys (t.depart task d boundary) := by
  have hnote := h.note [c.departure]
  simp only [HttpSession.depart, Call.transfer?_of_rekey hcall boundary,
    Call.departure_of_rekey hcall, Call.concludeTransfer_of_rekey hcall]
  cases c.transfer? boundary with
  | error fault => exact hnote.settle task _
  | ok transfer => exact hnote.sendOn ⟨hcall, rfl⟩ task

theorem proceed (h : s.SameButKeys t) {c d : Call} (hcall : c.rekey maskedKey = d.rekey maskedKey)
    (task : Nat) (progress : Transfer.Progress) :
    (s.proceed task c progress).SameButKeys
      (t.proceed task d (progress.mapHeaders (c.rekeying d))) := by
  cases progress with
  | waiting transfer => exact h.sendOn ⟨hcall, rfl⟩ task
  | ended result =>
      simp only [HttpSession.proceed, Transfer.Progress.mapHeaders,
        Call.concludeTransfer_of_rekey hcall]
      exact h.settle task _

theorem step (h : s.SameButKeys t) {x y : HttpStep} (hx : x.SameButKey y) :
    (s.step x).SameButKeys (t.step y) := by
  cases hx with
  | work hx => exact h.work hx
  | refl =>
  cases x with
  | work x => exact h.work (.refl x)
  | send task boundary =>
      have hpending := h.pending? task
      have hexchange := h.exchanges task
      simp only [HttpSession.step]
      generalize s.session.pending? task = c, t.session.pending? task = d at hpending
      generalize s.exchanges task = e, t.exchanges task = e' at hexchange
      cases hpending with
      | none => exact h
      | some hcall =>
        cases hexchange with
        | none => exact h.depart hcall task boundary
        | some he => exact h
  | receive task answer =>
      have hexchange := h.exchanges task
      simp only [HttpSession.step]
      generalize s.exchanges task = e, t.exchanges task = e' at hexchange
      cases hexchange with
      | none => exact h
      | some he =>
        dsimp only
        rw [he.transfer, Transfer.answered_mapHeaders (Call.keepsPublic_rekeying _ _)]
        exact h.proceed he.call task _

theorem run (h : s.SameButKeys t) {xs ys : List HttpStep}
    (hsteps : List.Forall₂ HttpStep.SameButKey xs ys) : (s.run xs).SameButKeys (t.run ys) := by
  induction hsteps generalizing s t with
  | nil => exact h
  | cons hx _ ih => exact ih (h.step hx)

end SameButKeys

theorem sameButKeys_refl_ofForm (form : Form) (files : FileTree) :
    (ofForm form files).SameButKeys (ofForm form files) :=
  ⟨rfl, fun _ ↦ .none, .nil⟩

/-- Runs that differ only in the keys that their uploads bring show the same in both areas and in
every field, end each task alike, leave the same files and log and make the same calls, with
whatever replies; only the calls of uploads may carry different keys. -/
theorem keys_stay_in_uploads (form : Form) (files : FileTree) :
    (∀ xs ys : List Step, List.Forall₂ (Step.SameButKey fun _ _ ↦ True) xs ys →
      ((Session.ofForm form files).run xs).SameButKeys ((Session.ofForm form files).run ys)) ∧
    ∀ xs ys : List HttpStep, List.Forall₂ HttpStep.SameButKey xs ys →
      let s := (ofForm form files).run xs
      let t := (ofForm form files).run ys
      s.session.SameButKeys t.session ∧ List.Forall₂ Sent.SameButKey s.sent t.sent ∧
        (∀ e ∈ s.sent, (e.task, e.call) ∈ s.session.calls) ∧
        ∀ e ∈ t.sent, (e.task, e.call) ∈ t.session.calls := by
  refine ⟨fun xs ys hsteps ↦ Session.sameButKeys_run _ hsteps, ?_⟩
  intro xs ys hsteps s t
  have h : s.SameButKeys t := (sameButKeys_refl_ofForm form files).run hsteps
  have hserves : ∀ steps, ((ofForm form files).run steps).ServesCalls :=
    (servesCalls_ofForm form files).run
  exact ⟨Session.sameButKeys_of_rekey h.session, h.sent, (hserves xs).sent, (hserves ys).sent⟩

def uploadSteps (key : String) : List HttpStep :=
  [.work (.start 0 (.upload ⟨⟨"a.txt", [65]⟩, "f01", key⟩)), .work (.advance 0), .work (.advance 0),
    .work (.advance 0), .send 0 "B", .receive 0 (.response { status := 200, body := [0x7B, 0x7D] })]

/-- Two keys that can be sent bring one request each, which differ in their bearer headers. -/
theorem keys_of_two_uploads :
    let s := (ofForm (.ofBaseUrl "http://a" []) ⟨[], []⟩).run (uploadSteps "one")
    let t := (ofForm (.ofBaseUrl "http://a" []) ⟨[], []⟩).run (uploadSteps "two")
    List.Forall₂ HttpStep.SameButKey (uploadSteps "one") (uploadSteps "two") ∧
      s.sent.map (·.request.headers.contains (.bearer "one")) = [true] ∧
      t.sent.map (·.request.headers.contains (.bearer "two")) = [true] ∧
      List.Forall₂ Sent.SameButKey s.sent t.sent := by
  intro s t
  have haccepts : SameAcceptance "one" "two" := by
    unfold SameAcceptance
    decide
  have hsteps : List.Forall₂ HttpStep.SameButKey (uploadSteps "one") (uploadSteps "two") :=
    .cons (.work (.upload 0 ⟨⟨"a.txt", [65]⟩, "f01", "one"⟩ "two" haccepts))
      (List.forall₂_same.mpr fun x _ ↦ .refl x)
  have hsame := (keys_stay_in_uploads (.ofBaseUrl "http://a" []) ⟨[], []⟩).2 _ _ hsteps
  exact ⟨hsteps, by decide +kernel, by decide +kernel, hsame.2.1⟩

end HttpSession

end DealForm
