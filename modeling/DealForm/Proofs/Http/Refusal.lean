import DealForm.Proofs.Http.Session

/-!
# What a response amounts to

The reply of a call is decided by the code of the response that is handed back and, within the
codes of success, by the document that it holds. A refusal is the same for all codes, headers and
bodies; only the log tells them apart. So two runs with different refusals of one call agree in
everything else.
-/

namespace DealForm

namespace Session

variable {s t : Session}

def withoutLog (s : Session) : Session :=
  { s with log := [] }

theorem withoutLog_save (s : Session) (task : Nat) (file : Path) (text : String) :
    (s.withoutLog.save task file text).withoutLog = (s.save task file text).withoutLog := by
  have hfiles : s.withoutLog.files = s.files := rfl
  simp only [save, hfiles]
  split <;> rfl

theorem withoutLog_advanceFrom (s : Session) (task : Nat) (p : Phase) :
    (s.withoutLog.advanceFrom task p).withoutLog = (s.advanceFrom task p).withoutLog := by
  cases p with
  | choosing key =>
      have hform : s.withoutLog.form = s.form := rfl
      simp only [advanceFrom, hform]
      split <;> rfl
  | downloadNamed file text => exact withoutLog_save s task file text
  | _ => rfl

theorem withoutLog_answerFrom (s : Session) (task : Nat) (reply : Reply) (p : Phase) :
    (s.withoutLog.answerFrom task reply p).withoutLog =
      (s.answerFrom task reply p).withoutLog := by
  cases p <;> rfl

/-- No step reads the log. -/
theorem withoutLog_step (s : Session) (x : Step) :
    (s.withoutLog.step x).withoutLog = (s.step x).withoutLog := by
  have htasks : s.withoutLog.tasks = s.tasks := rfl
  cases x with
  | start task operation =>
      simp only [step, htasks]
      split <;> rfl
  | advance task =>
      simp only [step, htasks]
      split
      · rfl
      · exact withoutLog_advanceFrom s task _
  | answer task reply =>
      simp only [step, htasks]
      split
      · rfl
      · exact withoutLog_answerFrom s task reply _

theorem withoutLog_step_congr (h : s.withoutLog = t.withoutLog) (x : Step) :
    (s.step x).withoutLog = (t.step x).withoutLog := by
  rw [← withoutLog_step s, ← withoutLog_step t, h]

end Session

/-! ## The response to one call -/

namespace Response

/-- The whole body is there and it is the text of this JSON value. -/
def Holds (r : Response) (body : Json) : Prop :=
  ∃ bytes text, r.wholeBody? = some bytes ∧ Utf8.decode bytes = .ok text ∧
    Json.parse text = .ok body

end Response

namespace Call

variable {c : Call} {r : Response}

theorem document?_eq_some_iff {body : Json} : document? r = some body ↔ r.Holds body := by
  have htoOption : ∀ {ε α : Type} {x : Except ε α} {a : α}, x.toOption = some a ↔ x = .ok a := by
    intro ε α x a
    cases x <;> simp [Except.toOption]
  constructor
  · intro h
    obtain ⟨bytes, hbytes, h⟩ := Option.bind_eq_some_iff.mp h
    obtain ⟨text, htext, hparse⟩ := Option.bind_eq_some_iff.mp h
    exact ⟨bytes, text, hbytes, htoOption.mp htext, htoOption.mp hparse⟩
  · rintro ⟨bytes, text, hbytes, htext, hparse⟩
    apply Option.bind_eq_some_iff.mpr ⟨bytes, hbytes, ?_⟩
    exact Option.bind_eq_some_iff.mpr ⟨text, htoOption.mpr htext, htoOption.mpr hparse⟩

/-- What a call brings back for a response: a code outside 200 to 299 is a refusal whatever else
the response says, and within them the reply is the document, of whatever shape, or that there is
none. -/
structure Brings (c : Call) (r : Response) (reply : Reply) : Prop where
  refusal : ¬ (200 ≤ r.status ∧ r.status ≤ 299) → reply = .error (match c with
    | .upload _ => .uploadFailed
    | .status _ => .requestFailed)
  document : 200 ≤ r.status → r.status ≤ 299 → ∀ body, r.Holds body → reply = .ok body
  undecodable : 200 ≤ r.status → r.status ≤ 299 → (∀ body, ¬ r.Holds body) →
    reply = .error (.http .undecodable)

theorem isSuccess_iff {code : Nat} :
    StatusCode.isSuccess code = true ↔ 200 ≤ code ∧ code ≤ 299 := by
  simp only [StatusCode.isSuccess, Bool.and_eq_true, decide_eq_true_eq]
  omega

theorem conclude_of_refused (h : ¬ (200 ≤ r.status ∧ r.status ≤ 299)) :
    (c.conclude r).reply = .error c.refusal := by
  rw [conclude, if_neg (isSuccess_iff.not.mpr h)]

theorem brings_conclude (c : Call) (r : Response) : c.Brings r (c.conclude r).reply where
  refusal h := by cases c <;> exact conclude_of_refused h
  document hlow hhigh body hbody := by
    rw [conclude, if_pos (isSuccess_iff.mpr ⟨hlow, hhigh⟩), document?_eq_some_iff.mpr hbody]
  undecodable hlow hhigh hnone := by
    rw [conclude, if_pos (isSuccess_iff.mpr ⟨hlow, hhigh⟩)]
    cases hdocument : document? r with
    | none => rfl
    | some body => exact absurd (document?_eq_some_iff.mp hdocument) (hnone body)

theorem reply_http {σ : Type} {net : Network σ} {boundary : String} {t : Transfer} {w w' : σ}
    {result : Except HttpFault Response} (ht : c.transfer? boundary = .ok t)
    (hrun : t.run net w = (result, w')) :
    (Api.http boundary net c w).1.reply = (c.concludeTransfer result).reply := by
  simp only [Api.http, ht, hrun]

end Call

/-! ## Runs that differ in a refusal -/

namespace HttpSession

variable {s t : HttpSession} {served served' : Served} {r r' : Response}

structure SameButLog (s t : HttpSession) : Prop where
  session : s.session.withoutLog = t.session.withoutLog
  exchanges : s.exchanges = t.exchanges
  sent : s.sent = t.sent

namespace SameButLog

theorem refl (s : HttpSession) : s.SameButLog s := ⟨rfl, rfl, rfl⟩

theorem form_eq (h : s.SameButLog t) : s.session.form = t.session.form := by
  have hform := congrArg Session.form h.session
  exact hform

theorem tasks_eq (h : s.SameButLog t) : s.session.tasks = t.session.tasks := by
  have htasks := congrArg Session.tasks h.session
  exact htasks

theorem pending?_eq (h : s.SameButLog t) : s.session.pending? = t.session.pending? := by
  funext task
  rw [Session.pending?, Session.pending?, h.tasks_eq]

theorem sendOn (h : s.SameButLog t) (task : Nat) (e : Exchange) :
    (s.sendOn task e).SameButLog (t.sendOn task e) where
  session := h.session
  exchanges := by simp only [HttpSession.sendOn, h.exchanges]
  sent := by simp only [HttpSession.sendOn, h.sent]

theorem settle (h : s.SameButLog t) (hreply : served.reply = served'.reply) (task : Nat) :
    (s.settle task served).SameButLog (t.settle task served') where
  session := by
    simp only [HttpSession.settle, hreply]
    apply Session.withoutLog_step_congr
    exact h.session
  exchanges := by simp only [HttpSession.settle, h.exchanges]
  sent := h.sent

theorem step (h : s.SameButLog t) (x : HttpStep) : (s.step x).SameButLog (t.step x) := by
  cases x with
  | work x => exact ⟨Session.withoutLog_step_congr h.session x, h.exchanges, h.sent⟩
  | send task boundary =>
      simp only [HttpSession.step, h.pending?_eq, h.exchanges]
      split
      · next c _ _ =>
        have hnote : SameButLog { s with session := s.session.note [c.departure] }
            { t with session := t.session.note [c.departure] } := ⟨h.session, h.exchanges, h.sent⟩
        simp only [depart]
        split
        · exact hnote.sendOn task _
        · exact hnote.settle rfl task
      · exact h
  | receive task answer =>
      simp only [HttpSession.step, h.exchanges]
      split
      · unfold proceed
        split
        · exact h.sendOn task _
        · exact h.settle rfl task
      · exact h

theorem run (h : s.SameButLog t) (steps : List HttpStep) :
    (s.run steps).SameButLog (t.run steps) := by
  induction steps generalizing s t with
  | nil => exact h
  | cons x steps ih => exact ih (h.step x)

end SameButLog

/-- The task's transfer hands this response back. -/
def HandsBack (s : HttpSession) (task : Nat) (r : Response) : Prop :=
  ∃ e, s.exchanges task = some e ∧ e.transfer.answered (.response r) = .ended (.ok r)

theorem HandsBack.exists_step_eq (h : s.HandsBack task r) :
    ∃ e, s.exchanges task = some e ∧
      s.step (.receive task (.response r)) = s.settle task (e.call.conclude r) := by
  obtain ⟨e, he, hanswered⟩ := h
  refine ⟨e, he, ?_⟩
  rw [step_receive he, hanswered]
  rfl

theorem sameButLog_step_of_refused (h : s.HandsBack task r) (h' : s.HandsBack task r')
    (hr : ¬ (200 ≤ r.status ∧ r.status ≤ 299)) (hr' : ¬ (200 ≤ r'.status ∧ r'.status ≤ 299)) :
    (s.step (.receive task (.response r))).SameButLog (s.step (.receive task (.response r'))) := by
  obtain ⟨e, he, hstep⟩ := h.exists_step_eq
  obtain ⟨e', he', hstep'⟩ := h'.exists_step_eq
  obtain rfl : e = e' := Option.some.inj (he.symm.trans he')
  rw [hstep, hstep']
  apply (SameButLog.refl s).settle
  rw [Call.conclude_of_refused hr, Call.conclude_of_refused hr']

/-- The final response to a call alone decides its reply, over every network and in a session that
does other things meanwhile; and two runs in which one call is refused with different responses end
with the same form, the same files, the same calls and requests and the same outcome of each
task. -/
theorem reply_of_final_response :
    (∀ {σ : Type} (net : Network σ) (boundary : String) (c : Call) (t : Transfer) (r : Response)
      (w w' : σ), c.transfer? boundary = .ok t → t.run net w = (.ok r, w') →
      c.Brings r (Api.http boundary net c w).1.reply) ∧
    (∀ (s : HttpSession) (task : Nat) (r : Response), s.HandsBack task r →
      ∃ e served, s.exchanges task = some e ∧ e.call.Brings r served.reply ∧
        s.step (.receive task (.response r)) = s.settle task served) ∧
    ∀ (s : HttpSession) (before after : List HttpStep) (task : Nat) (r r' : Response),
      (s.run before).HandsBack task r → (s.run before).HandsBack task r' →
      ¬ (200 ≤ r.status ∧ r.status ≤ 299) → ¬ (200 ≤ r'.status ∧ r'.status ≤ 299) →
      let ended := s.run (before ++ .receive task (.response r) :: after)
      let ended' := s.run (before ++ .receive task (.response r') :: after)
      ended.session.form = ended'.session.form ∧
        (∀ other, ended.session.outcome? other = ended'.session.outcome? other) ∧
        ended.SameButLog ended' := by
  refine ⟨?_, ?_, ?_⟩
  · intro σ net boundary c t r w w' ht hrun
    rw [Call.reply_http ht hrun]
    exact c.brings_conclude r
  · intro s task r h
    obtain ⟨e, he, hstep⟩ := h.exists_step_eq
    exact ⟨e, e.call.conclude r, he, e.call.brings_conclude r, hstep⟩
  · intro s before after task r r' h h' hr hr' ended ended'
    have hstep := sameButLog_step_of_refused h h' hr hr'
    have hended : ended.SameButLog ended' := by
      simp only [ended, ended', run_append, run, List.foldl_cons]
      exact hstep.run after
    refine ⟨hended.form_eq, fun other ↦ ?_, hended⟩
    rw [Session.outcome?, Session.outcome?, hended.tasks_eq]

theorem handsBack_of_no_redirect {s : HttpSession} {task : Nat} {r : Response}
    (hwaits : (s.exchanges task).isSome = true) (hreadable : r.isReadable = true)
    (hr : ∀ request, Transfer.repeatedAs? r.status request = none) : s.HandsBack task r := by
  obtain ⟨e, he⟩ := Option.isSome_iff_exists.mp hwaits
  refine ⟨e, he, ?_⟩
  rw [Transfer.answered, if_pos hreadable, Transfer.receive, hr]

def lookupSteps : List HttpStep :=
  [.work (.start 0 (.status "7")), .work (.advance 0), .work (.advance 0), .send 0 "B"]

/-- A lookup that is not found and one that meets a server at fault end alike. -/
theorem refused_lookups_agree :
    let s := ofForm (.ofBaseUrl "http://a" []) ⟨[], []⟩
    let missing : Response := { status := 404, body := [0x7B, 0x7D] }
    let fault : Response := { status := 500, isComplete := false }
    (s.run lookupSteps).HandsBack 0 missing ∧ (s.run lookupSteps).HandsBack 0 fault ∧
      (s.run (lookupSteps ++ [.receive 0 (.response missing)])).SameButLog
        (s.run (lookupSteps ++ [.receive 0 (.response fault)])) := by
  intro s missing fault
  have hwaits : ((s.run lookupSteps).exchanges 0).isSome = true := by decide +kernel
  have hmissing : (s.run lookupSteps).HandsBack 0 missing :=
    handsBack_of_no_redirect hwaits (by decide) fun _ ↦ rfl
  have hfault : (s.run lookupSteps).HandsBack 0 fault :=
    handsBack_of_no_redirect hwaits (by decide) fun _ ↦ rfl
  have hpair := reply_of_final_response.2.2 s lookupSteps [] 0 missing fault hmissing hfault
    (by decide) (by decide)
  exact ⟨hmissing, hfault, hpair.2.2⟩

end HttpSession

end DealForm
