import DealForm.Proofs.Session.Completion

/-!
# Whose reply is shown

The response area and the identifier beside it are those of the lookup that showed its reply last,
in whatever order the lookups were started and answered. The identifier among the fields is the
one of the lookup that was started last, which may be another.
-/

namespace DealForm

namespace Part

def response : Part String where
  read f := f.display.responseArea
  sets
    | .edit (.setResponseArea text) => some text
    | .showStatus _ reply => some (renderStatus reply)
    | _ => none
  read_onForm a f := by
    cases a with
    | edit change => cases change <;> rfl
    | _ => rfl

def shownId : Part (Option String) where
  read f := f.display.responseContentId
  sets
    | .showStatus request _ => some (some request.contentId)
    | _ => none
  read_onForm a f := by
    cases a with
    | edit change => cases change <;> rfl
    | _ => rfl

def askedId : Part (Option String) where
  read f := f.fields.contentId
  sets
    | .ask request => some (some request.contentId)
    | _ => none
  read_onForm a f := by
    cases a with
    | edit change => cases change <;> rfl
    | _ => rfl

theorem shownId_sets_eq_some {a : Act} {contentId : Option String}
    (h : shownId.sets a = some contentId) :
    ∃ r reply, a = .showStatus r reply ∧ contentId = some r.contentId := by
  cases a with
  | showStatus r reply => exact ⟨r, reply, rfl, (Option.some.inj h).symm⟩
  | _ => cases h

theorem askedId_sets_eq_some {a : Act} {contentId : Option String}
    (h : askedId.sets a = some contentId) : ∃ r, a = .ask r ∧ contentId = some r.contentId := by
  cases a with
  | ask r => exact ⟨r, rfl, (Option.some.inj h).symm⟩
  | _ => cases h

theorem response_sets_eq_some {a : Act} {text : String} (h : response.sets a = some text) :
    a = .edit (.setResponseArea text) ∨ ∃ r reply, a = .showStatus r reply := by
  cases a with
  | showStatus r reply => exact Or.inr ⟨r, reply, rfl⟩
  | edit change =>
      cases change with
      | setResponseArea new =>
          cases h
          exact Or.inl rfl
      | _ => cases h
  | _ => cases h

end Part

namespace Session

variable {s : Session} {steps : List Step} {i j k task : Nat}

/-- From step `i` on the user edited the response area last to `text`; or did not edit it, and
`text` is `old`. -/
def EditedSince (s : Session) (steps : List Step) (i : Nat) (old text : String) : Prop :=
  (text = old ∧
      ∀ j task new, i ≤ j → ¬ s.Does steps j task (.edit (.setResponseArea new))) ∨
    ∃ k task, i ≤ k ∧ s.Does steps k task (.edit (.setResponseArea text)) ∧
      ∀ j other new, k < j → ¬ s.Does steps j other (.edit (.setResponseArea new))

theorem editedSince_of_no_showStatus (s : Session) (steps : List Step)
    (hnone : ∀ k task r reply, ¬ s.Does steps k task (.showStatus r reply)) :
    s.EditedSince steps 0 s.form.display.responseArea
      (s.run steps).form.display.responseArea := by
  rcases last_set .response s steps with ⟨hnever, hsame⟩ | ⟨k, task, a, hd, ha, hlast⟩
  · left
    refine ⟨hsame, fun j task new _ hd ↦ ?_⟩
    cases hnever j task _ hd
  · right
    rcases Part.response_sets_eq_some ha with rfl | ⟨r, reply, rfl⟩
    · refine ⟨k, task, Nat.zero_le k, hd, fun j other new hj hd ↦ ?_⟩
      cases hlast j other _ hj hd
    · exact absurd hd (hnone k task r reply)

theorem editedSince_of_last_showStatus {r : StatusRequest} {reply : Reply}
    (hshow : s.Does steps k task (.showStatus r reply))
    (hnomore : ∀ j other r' reply', k < j → ¬ s.Does steps j other (.showStatus r' reply')) :
    s.EditedSince steps (k + 1) (renderStatus reply)
      (s.run steps).form.display.responseArea := by
  rcases last_set .response s steps with ⟨hnever, -⟩ | ⟨i, other, a, hd, ha, hlast⟩
  · cases hnever k task _ hshow
  rcases Nat.lt_trichotomy i k with hik | rfl | hki
  · cases hlast k task _ hik hshow
  · left
    obtain ⟨-, rfl⟩ := hd.unique hshow
    refine ⟨(Option.some.inj ha).symm, fun j task new hj hd ↦ ?_⟩
    cases hlast j task _ hj hd
  · right
    rcases Part.response_sets_eq_some ha with rfl | ⟨r', reply', rfl⟩
    · refine ⟨i, other, hki, hd, fun j other new hj hd ↦ ?_⟩
      cases hlast j other _ hj hd
    · exact absurd hd (hnomore i other r' reply' hki)

/-- What is shown as a response never mixes two lookups: the identifier beside it is that of the
lookup which showed its reply last, and the text is that very reply, or what the user typed after
it. The identifier among the fields is that of the lookup which noted its own last. -/
theorem response_of_last_lookup (settings : Settings) (files : FileTree) (steps : List Step) :
    let s := fresh settings files
    let form := (s.run steps).form
    (((∀ k task r reply, ¬ s.Does steps k task (.showStatus r reply)) ∧
          form.display.responseContentId = none ∧
          s.EditedSince steps 0 "" form.display.responseArea) ∨
        ∃ i j k task r reply, i < j ∧ j < k ∧
          s.Does steps i task (.call (.status r)) ∧
          s.Does steps j task (.answer (.status r) reply) ∧
          s.Does steps k task (.showStatus r reply) ∧
          (∀ l other r' reply', k < l → ¬ s.Does steps l other (.showStatus r' reply')) ∧
          form.display.responseContentId = some r.contentId ∧
          s.EditedSince steps (k + 1) (renderStatus reply) form.display.responseArea) ∧
      (((∀ k task r, ¬ s.Does steps k task (.ask r)) ∧ form.fields.contentId = none) ∨
        ∃ i k task r, i < k ∧ s.Does steps i task (.start (.status r.contentId)) ∧
          s.Does steps k task (.ask r) ∧
          (∀ l other r', k < l → ¬ s.Does steps l other (.ask r')) ∧
          form.fields.contentId = some r.contentId) := by
  intro s form
  have hnew : ∀ task, s.tasks task = none := fun _ ↦ rfl
  constructor
  · rcases last_set .shownId s steps with
      ⟨hnever, hsame⟩ | ⟨k, task, a, hd, ha, hlast⟩
    · have hnone : ∀ k task r reply, ¬ s.Does steps k task (.showStatus r reply) := by
        intro k task r reply hd
        cases hnever k task _ hd
      exact Or.inl ⟨hnone, hsame, editedSince_of_no_showStatus s steps hnone⟩
    · obtain ⟨r, reply, rfl, hid⟩ := Part.shownId_sets_eq_some ha
      have hnomore : ∀ l other r' reply', k < l →
          ¬ s.Does steps l other (.showStatus r' reply') := by
        intro l other r' reply' hl hd
        cases hlast l other _ hl hd
      obtain ⟨i, j, hi, hj, hcall, hanswer⟩ := hd.of_shown (hnew task) (.showStatus r reply)
      exact Or.inr ⟨i, j, k, task, r, reply, hi, hj, hcall, hanswer, hd, hnomore, hid,
        editedSince_of_last_showStatus hd hnomore⟩
  · rcases last_set .askedId s steps with
      ⟨hnever, hsame⟩ | ⟨k, task, a, hd, ha, hlast⟩
    · refine Or.inl ⟨fun k task r hd ↦ ?_, hsame⟩
      cases hnever k task _ hd
    · obtain ⟨r, rfl, hid⟩ := Part.askedId_sets_eq_some ha
      obtain ⟨i, hi, hstart⟩ := hd.of_precedes (hnew task) (.ask r) (by rintro _ ⟨⟩; rfl)
      refine Or.inr ⟨i, k, task, r, hi, hstart, hd, fun l other r' hl hd ↦ ?_, hid⟩
      cases hlast l other _ hl hd

/-- Of two lookups the one that was started first is answered last. -/
def crossedSteps : List Step :=
  [.start 0 (.status "a"), .start 1 (.status "b"), .advance 0, .advance 1, .advance 0, .advance 1,
    .answer 1 (.ok .null), .advance 1, .answer 0 (.error .requestFailed), .advance 0]

/-- The reply to the first lookup is shown with its identifier, while the fields name the second. -/
theorem response_of_crossed_lookups :
    let s := fresh {} ⟨[], []⟩
    let form := (s.run crossedSteps).form
    (∃ k task r reply, s.Does crossedSteps k task (.showStatus r reply) ∧ r.contentId = "a" ∧
        (∀ l other r' reply', k < l → ¬ s.Does crossedSteps l other (.showStatus r' reply')) ∧
        form.display.responseContentId = some "a" ∧
        s.EditedSince crossedSteps (k + 1) (renderStatus reply) form.display.responseArea) ∧
      ∃ k task r, s.Does crossedSteps k task (.ask r) ∧ r.contentId = "b" ∧
        form.fields.contentId = some "b" := by
  intro s form
  have hnew : s.tasks 0 = none := rfl
  have hturns : (Operation.status "a").schedule 0 (.error .requestFailed) <+:
      turnsOf 0 crossedSteps := ⟨[], rfl⟩
  obtain ⟨_, j, _, _, m, -, -, -, -, -, hask, -, -, hshow, -⟩ := lookup_completes hnew hturns
  have hshown : form.display.responseContentId = some "a" := by decide
  have hasked : form.fields.contentId = some "b" := by decide
  obtain ⟨hresponse, hfields⟩ := response_of_last_lookup {} ⟨[], []⟩ crossedSteps
  constructor
  · rcases hresponse with
      ⟨hnone, -⟩ | ⟨_, _, k, task, r, reply, -, -, -, -, hlast, hnomore, hid, hedited⟩
    · exact absurd hshow (hnone m 0 _ _)
    · exact ⟨k, task, r, reply, hlast, Option.some.inj (hid.symm.trans hshown), hnomore, hshown,
        hedited⟩
  · rcases hfields with ⟨hnone, -⟩ | ⟨_, k, task, r, -, -, hlast, -, hid⟩
    · exact absurd hask (hnone j 0 _)
    · exact ⟨k, task, r, hlast, Option.some.inj (hid.symm.trans hasked), hasked⟩

end Session

end DealForm
