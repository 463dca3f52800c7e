import DealForm.Proofs.Json.Opening
import DealForm.Proofs.Session.Completion

/-!
# What the message area shows of uploads

However many uploads overlap and in whatever order they are answered, the placeholder is shown only
while an upload that wrote it has no outcome yet. Once there is none, the outcome that was shown
last stands.
-/

namespace DealForm

namespace Part

def message : Part String where
  read f := f.display.messageArea
  sets
    | .announce _ => some uploadingMessage
    | .showUpload _ reply => some (renderUpload reply)
    | _ => none
  read_onForm a f := by
    cases a with
    | edit change => cases change <;> rfl
    | _ => rfl

theorem message_sets_eq_some {a : Act} {text : String} (h : message.sets a = some text) :
    (∃ r, a = .announce r) ∨ ∃ r reply, a = .showUpload r reply ∧ text = renderUpload reply := by
  cases a with
  | announce r => exact Or.inl ⟨r, rfl⟩
  | showUpload r reply => exact Or.inr ⟨r, reply, rfl, (Option.some.inj h).symm⟩
  | _ => cases h

end Part

namespace Session

variable {s : Session} {steps : List Step} {j k task : Nat}

/-- A task has written the placeholder of its upload and not the outcome. -/
def HasOpenUpload (s : Session) (steps : List Step) (task : Nat) : Prop :=
  (∃ k r, s.Does steps k task (.announce r)) ∧
    ∀ k r reply, ¬ s.Does steps k task (.showUpload r reply)

theorem Does.announce_lt_showUpload {r r' : UploadRequest} {reply : Reply}
    (hannounce : s.Does steps j task (.announce r))
    (hshow : s.Does steps k task (.showUpload r' reply)) : j < k := by
  rcases Nat.lt_trichotomy j k with hlt | rfl | hlt
  · exact hlt
  · cases (hannounce.unique hshow).2
  · have hstage := hshow.stage_lt hannounce hlt
    simp [Act.phase, Phase.stage] at hstage

/-- A placeholder after which nothing is written belongs to an upload without an outcome. -/
theorem hasOpenUpload_of_last {r : UploadRequest} (hd : s.Does steps k task (.announce r))
    (hlast : ∀ j other b, k < j → s.Does steps j other b → Part.message.sets b = none) :
    s.HasOpenUpload steps task := by
  refine ⟨⟨k, r, hd⟩, fun j r' reply hshow ↦ ?_⟩
  cases hlast j task _ (hd.announce_lt_showUpload hshow) hshow

theorem message_of_no_open_upload (hnew : ∀ task, s.tasks task = none)
    (hclosed : ∀ task, ¬ s.HasOpenUpload steps task) :
    ((∀ k task r reply, ¬ s.Does steps k task (.showUpload r reply)) ∧
        (s.run steps).form.display.messageArea = s.form.display.messageArea) ∨
      ∃ i j k task r reply, i < j ∧ j < k ∧
        s.Does steps i task (.call (.upload r)) ∧
        s.Does steps j task (.answer (.upload r) reply) ∧
        s.Does steps k task (.showUpload r reply) ∧
        (∀ l other r' reply', k < l → ¬ s.Does steps l other (.showUpload r' reply')) ∧
        (s.run steps).form.display.messageArea = renderUpload reply := by
  rcases last_set .message s steps with ⟨hnever, hsame⟩ | ⟨k, task, a, hd, ha, hlast⟩
  · refine Or.inl ⟨fun k task r reply hd ↦ ?_, hsame⟩
    cases hnever k task _ hd
  · rcases Part.message_sets_eq_some ha with ⟨r, rfl⟩ | ⟨r, reply, rfl, htext⟩
    · exact absurd (hasOpenUpload_of_last hd hlast) (hclosed task)
    · obtain ⟨i, j, hi, hj, hcall, hanswer⟩ := hd.of_shown (hnew task) (.showUpload r reply)
      refine Or.inr ⟨i, j, k, task, r, reply, hi, hj, hcall, hanswer, hd, ?_, htext⟩
      intro l other r' reply' hl hshow
      cases hlast l other _ hl hshow

/-- The placeholder means that an upload which wrote it has no outcome yet. With no such upload
the message area holds the outcome of the upload that completed last, which is what that upload
gave back, and never the placeholder. -/
theorem message_of_last_upload (settings : Settings) (files : FileTree) (steps : List Step) :
    let s := fresh settings files
    let message := (s.run steps).form.display.messageArea
    (message = uploadingMessage → ∃ task, s.HasOpenUpload steps task) ∧
      ((∀ task, ¬ s.HasOpenUpload steps task) →
        ((∀ k task r reply, ¬ s.Does steps k task (.showUpload r reply)) ∧ message = "") ∨
          ∃ i j k task r reply, i < j ∧ j < k ∧
            s.Does steps i task (.call (.upload r)) ∧
            s.Does steps j task (.answer (.upload r) reply) ∧
            s.Does steps k task (.showUpload r reply) ∧
            (∀ l other r' reply', k < l → ¬ s.Does steps l other (.showUpload r' reply')) ∧
            message = renderUpload reply ∧
            (s.run steps).outcome? task = some (.rendered message) ∧
            message ≠ uploadingMessage) := by
  intro s message
  have hnew : ∀ task, s.tasks task = none := fun _ ↦ rfl
  constructor
  · intro hmessage
    by_contra hclosed
    rcases message_of_no_open_upload hnew (not_exists.mp hclosed) with
      ⟨-, hempty⟩ | ⟨i, j, k, task, r, reply, -, -, -, -, -, -, htext⟩
    · have hblank : message = "" := hempty
      rw [hmessage] at hblank
      exact absurd hblank (by decide)
    · exact renderUpload_ne_uploadingMessage reply (htext.symm.trans hmessage)
  · intro hclosed
    rcases message_of_no_open_upload hnew hclosed with
      hempty | ⟨i, j, k, task, r, reply, hi, hj, hcall, hanswer, hd, hlast, htext⟩
    · exact Or.inl hempty
    · have hrendered : message = renderUpload reply := htext
      refine Or.inr ⟨i, j, k, task, r, reply, hi, hj, hcall, hanswer, hd, hlast, htext, ?_, ?_⟩
      · rw [hrendered]
        exact hd.outcome_eq rfl
      · rw [hrendered]
        exact renderUpload_ne_uploadingMessage reply

/-- Two uploads overlap, and the one that was started last is answered first. -/
def overlappingSteps (input : UploadInput) : List Step :=
  [.start 0 (.upload input), .start 1 (.upload input), .advance 0, .advance 1, .advance 0,
    .advance 0, .advance 1, .advance 1, .answer 1 (.ok .null), .advance 1,
    .answer 0 (.error .uploadFailed), .advance 0]

/-- While the two are under way the placeholder is shown, and then the outcome of the first. -/
theorem message_of_overlapping_uploads :
    let input : UploadInput := ⟨⟨"f", []⟩, "m", "k"⟩
    let s := fresh {} ⟨[], []⟩
    let steps := overlappingSteps input
    let message := (s.run steps).form.display.messageArea
    (∃ task, s.HasOpenUpload (steps.take 8) task) ∧ (∀ task, ¬ s.HasOpenUpload steps task) ∧
      (∃ k task r reply, s.Does steps k task (.showUpload r reply) ∧
        (∀ l other r' reply', k < l → ¬ s.Does steps l other (.showUpload r' reply')) ∧
        message = renderUpload reply ∧ (s.run steps).outcome? task = some (.rendered message)) ∧
      message = "<div class=\"message error\">Upload failed</div>" := by
  intro input s steps message
  have hshows : ∀ task, task = 0 ∨ task = 1 →
      ∃ k r reply, s.Does steps k task (.showUpload r reply) := by
    intro task htask
    have hturns : ∃ reply, (Operation.upload input).schedule task reply <+: turnsOf task steps := by
      rcases htask with rfl | rfl
      · exact ⟨.error .uploadFailed, [], rfl⟩
      · exact ⟨.ok .null, [], rfl⟩
    obtain ⟨reply, hturns⟩ := hturns
    have hnew : s.tasks task = none := rfl
    obtain ⟨_, _, _, _, m, -, -, -, -, -, -, -, -, hshow, -⟩ := upload_completes hnew hturns
    exact ⟨m, _, reply, hshow⟩
  have htasks : ∀ x ∈ steps, x.task = 0 ∨ x.task = 1 := by
    simp [steps, overlappingSteps, Step.task]
  have hclosed : ∀ task, ¬ s.HasOpenUpload steps task := by
    rintro task ⟨⟨k, r, x, hx, rfl, -⟩, hnone⟩
    obtain ⟨m, r', reply, hshow⟩ := hshows x.task (htasks x (List.mem_of_getElem? hx))
    exact hnone m r' reply hshow
  have hopen := (message_of_last_upload {} ⟨[], []⟩ (steps.take 8)).1 (by decide)
  refine ⟨hopen, hclosed, ?_, by decide⟩
  rcases (message_of_last_upload {} ⟨[], []⟩ steps).2 hclosed with
    ⟨hnone, -⟩ | ⟨_, _, k, task, r, reply, -, -, -, -, hshow, hlast, htext, houtcome, -⟩
  · obtain ⟨m, r, reply, hshow⟩ := hshows 0 (Or.inl rfl)
    exact absurd hshow (hnone m 0 r reply)
  · exact ⟨k, task, r, reply, hshow, hlast, htext, houtcome⟩

end Session

end DealForm
