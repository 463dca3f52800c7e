import DealForm.Proofs.Session.Completion

/-!
# The calls of a run

An upload makes one call and so does a lookup, whatever comes of it. What the call carries was
read off the fields in one step, and the fields are at every step what the edits so far, each of
them made as a whole, have left of them. Later edits do not reach a request that was read.
-/

namespace DealForm

theorem Form.fields_edit {f g : Form} {contentId : Option String}
    (h : f.fields = { g.fields with contentId }) (change : Edit) :
    (f.edit change).fields = { (g.edit change).fields with contentId } := by
  cases change <;> simp [Form.edit, h]

namespace Call

def operation : Call → Operation
  | upload r => .upload r.input
  | status r => .status r.contentId

/-- The act that reads off the fields what a call carries. -/
def reading : Call → Act
  | upload r => .compose r
  | status r => .ask r

end Call

theorem Act.calls_eq_nil_or (a : Act) : a.calls = [] ∨ ∃ c, a = .call c := by
  cases a with
  | call c => exact Or.inr ⟨c, rfl⟩
  | _ => exact Or.inl rfl

namespace Session

variable {s : Session} {steps : List Step} {x : Step} {i j k task other : Nat} {a : Act}

def callsOf (s : Session) (task : Nat) : List Call :=
  s.calls.filterMap fun c ↦ if c.1 = task then some c.2 else none

/-! ## One call for each operation -/

theorem Performs.callsOf_self {t : Session} (h : s.Performs task a t) :
    t.callsOf task = s.callsOf task ++ a.calls := by
  have hmap : (fun c ↦ if (Prod.mk task c).1 = task then some (Prod.mk task c).2 else none) =
      (some : Call → Option Call) := by
    funext c
    simp
  rw [callsOf, h.calls, List.filterMap_append, List.filterMap_map, Function.comp_def, hmap,
    List.filterMap_some, callsOf]

theorem Performs.callsOf_other {t : Session} (h : s.Performs task a t) (hother : other ≠ task) :
    t.callsOf other = s.callsOf other := by
  have hmap : (fun c ↦ if (Prod.mk task c).1 = other then some (Prod.mk task c).2 else none) =
      fun _ : Call ↦ (none : Option Call) := by
    funext c
    simp [hother.symm]
  rw [callsOf, h.calls, List.filterMap_append, List.filterMap_map, Function.comp_def, hmap]
  simp [callsOf]

theorem callsOf_step_of_call {c : Call} (h : s.act? x = some (.call c)) :
    (s.step x).callsOf x.task = s.callsOf x.task ++ [c] :=
  (performs_step h).callsOf_self

theorem callsOf_step_of_no_call
    (h : ∀ c, ¬ (x.task = task ∧ s.act? x = some (.call c))) :
    (s.step x).callsOf task = s.callsOf task := by
  cases hx : s.act? x with
  | none => rw [step_of_act?_eq_none hx]
  | some a =>
      by_cases htask : task = x.task
      · subst htask
        rcases a.calls_eq_nil_or with ha | ⟨c, rfl⟩
        · rw [(performs_step hx).callsOf_self, ha, List.append_nil]
        · exact absurd ⟨rfl, hx⟩ (h c)
      · exact (performs_step hx).callsOf_other htask

theorem callsOf_run (s : Session) (hnone : s.calls = []) (steps : List Step) (task : Nat) :
    ((∀ k c, ¬ s.Does steps k task (.call c)) ∧ (s.run steps).callsOf task = []) ∨
      ∃ k c, s.Does steps k task (.call c) ∧ (s.run steps).callsOf task = [c] := by
  induction steps using List.reverseRecOn with
  | nil =>
      refine Or.inl ⟨fun k c hd ↦ absurd hd.lt_length (Nat.not_lt_zero k), ?_⟩
      simp [run, callsOf, hnone]
  | append_singleton steps x ih =>
      rw [run_concat]
      by_cases hcall : ∃ c, x.task = task ∧ (s.run steps).act? x = some (.call c)
      · obtain ⟨c, rfl, hx⟩ := hcall
        have hnow : s.Does (steps ++ [x]) steps.length x.task (.call c) :=
          does_concat_iff.mpr (Or.inr ⟨rfl, rfl, hx⟩)
        rcases ih with ⟨-, hcalls⟩ | ⟨k, c', hd, -⟩
        · refine Or.inr ⟨steps.length, c, hnow, ?_⟩
          rw [callsOf_step_of_call hx, hcalls, List.nil_append]
        · have hk := ((hd.append [x]).call_unique hnow).1
          exact absurd hd.lt_length (hk ▸ lt_irrefl _)
      · rw [callsOf_step_of_no_call (not_exists.mp hcall)]
        rcases ih with ⟨hno, hcalls⟩ | ⟨k, c, hd, hcalls⟩
        · refine Or.inl ⟨fun k c hd ↦ ?_, hcalls⟩
          rcases does_concat_iff.mp hd with hd | ⟨-, hx⟩
          · exact hno k c hd
          · exact hcall ⟨c, hx⟩
        · exact Or.inr ⟨k, c, hd.append [x], hcalls⟩

theorem Does.callsOf_eq (hnone : s.calls = []) {c : Call} (h : s.Does steps k task (.call c)) :
    (s.run steps).callsOf task = [c] := by
  rcases s.callsOf_run hnone steps task with ⟨hno, -⟩ | ⟨j, c', hd, hcalls⟩
  · exact absurd h (hno k c)
  · cases (hd.call_unique h).2
    exact hcalls

/-! ## What a call carries -/

theorem Does.start_of_reading (hnew : s.tasks task = none) {c : Call}
    (h : s.Does steps j task c.reading) :
    ∃ i, i < j ∧ s.Does steps i task (.start c.operation) := by
  cases c with
  | upload r => exact h.of_precedes hnew (.compose r) (by rintro _ ⟨⟩; rfl)
  | status r => exact h.of_precedes hnew (.ask r) (by rintro _ ⟨⟩; rfl)

theorem Does.reading_of_call (hnew : s.tasks task = none) {c : Call}
    (h : s.Does steps k task (.call c)) : ∃ j, j < k ∧ s.Does steps j task c.reading := by
  cases c with
  | upload r =>
      obtain ⟨l, hl, hannounce⟩ := h.of_precedes hnew (.callUpload r) (by rintro _ ⟨⟩; rfl)
      obtain ⟨j, hj, hcompose⟩ := hannounce.of_precedes hnew (.announce r) (by rintro _ ⟨⟩; rfl)
      exact ⟨j, hj.trans hl, hcompose⟩
  | status r => exact h.of_precedes hnew (.callStatus r) (by rintro _ ⟨⟩; rfl)

theorem Does.reading_unique (hnew : s.tasks task = none) {c c' : Call}
    (h : s.Does steps j task c.reading) (h' : s.Does steps k task c'.reading) : c = c' := by
  obtain ⟨i, -, hstart⟩ := h.start_of_reading hnew
  obtain ⟨i', -, hstart'⟩ := h'.start_of_reading hnew
  have hoperation := (hstart.start_unique hstart').2
  cases c with
  | upload r =>
      cases c' with
      | upload r' => exact congrArg Call.upload (Act.compose.inj (h.eq_of_stage_eq h' rfl).2)
      | status r' => cases hoperation
  | status r =>
      cases c' with
      | upload r' => cases hoperation
      | status r' => exact congrArg Call.status (Act.ask.inj (h.eq_of_stage_eq h' rfl).2)

/-- What a task has read is what it calls with, whatever happens in between. -/
theorem Does.call_of_reading (hnew : s.tasks task = none) {c c' : Call}
    (h : s.Does steps j task c.reading) (hcall : s.Does steps k task (.call c')) : c' = c := by
  obtain ⟨l, -, hread⟩ := hcall.reading_of_call hnew
  exact hread.reading_unique hnew h

/-- A call is made for the operation of its task, and what it carries is read in between. -/
theorem Does.call_of_start (hnew : s.tasks task = none) {o : Operation} {c : Call}
    (hstart : s.Does steps i task (.start o)) (hcall : s.Does steps k task (.call c)) :
    c.operation = o ∧ ∃ j, i < j ∧ j < k ∧ s.Does steps j task c.reading := by
  obtain ⟨j, hj, hread⟩ := hcall.reading_of_call hnew
  obtain ⟨i', hi, hstart'⟩ := hread.start_of_reading hnew
  obtain ⟨rfl, hoperation⟩ := hstart'.start_unique hstart
  exact ⟨hoperation, j, hi, hj, hread⟩

/-! ## Edits are made as a whole -/

def edits (s : Session) : List Step → List Edit
  | [] => []
  | x :: xs =>
    match s.act? x with
    | some (.edit change) => change :: (s.step x).edits xs
    | _ => (s.step x).edits xs

def edited (s : Session) (steps : List Step) : Form :=
  (s.edits steps).foldl Form.edit s.form

theorem edits_append (s : Session) (xs ys : List Step) :
    s.edits (xs ++ ys) = s.edits xs ++ (s.run xs).edits ys := by
  induction xs generalizing s with
  | nil => rfl
  | cons x xs ih =>
      simp only [List.cons_append, edits, ih]
      split <;> rfl

theorem edited_concat_of_edit {change : Edit} (h : (s.run steps).act? x = some (.edit change)) :
    s.edited (steps ++ [x]) = (s.edited steps).edit change := by
  simp [edited, edits_append, edits, h]

theorem edited_concat_of_no_edit
    (h : ∀ change, (s.run steps).act? x ≠ some (.edit change)) :
    s.edited (steps ++ [x]) = s.edited steps := by
  have hnone : (s.run steps).edits [x] = [] := by
    unfold edits
    split
    · next change heq => exact absurd heq (h change)
    · rfl
  rw [edited, edits_append, hnone, List.append_nil, edited]

/-- But for the identifier, the fields are what the edits so far have left of them. -/
theorem fields_run (s : Session) (steps : List Step) :
    (s.run steps).form.fields =
      { (s.edited steps).fields with contentId := (s.run steps).form.fields.contentId } := by
  induction steps using List.reverseRecOn with
  | nil => rfl
  | append_singleton steps x ih =>
      rw [run_concat]
      cases hx : (s.run steps).act? x with
      | none =>
          rw [step_of_act?_eq_none hx, edited_concat_of_no_edit (by simp [hx])]
          exact ih
      | some a =>
          rw [(performs_step hx).form]
          cases a with
          | edit change =>
              rw [edited_concat_of_edit hx]
              have h := Form.fields_edit ih change
              simp only [Act.onForm, h]
          | _ =>
              rw [edited_concat_of_no_edit (by simp [hx])]
              simp only [Act.onForm, Form.noteContentId, Form.showMessage, Form.showResponse]
              rw [ih]

theorem uploadRequest_run (s : Session) (steps : List Step) (input : UploadInput) :
    (s.run steps).form.uploadRequest input = (s.edited steps).uploadRequest input := by
  simp only [Form.uploadRequest]
  rw [s.fields_run steps]

theorem statusRequest_run (s : Session) (steps : List Step) (contentId : String) :
    (s.run steps).form.statusRequest contentId = (s.edited steps).statusRequest contentId := by
  simp only [Form.statusRequest]
  rw [s.fields_run steps]

/-- Every upload and every lookup that comes to its call makes just that one, and its result is
shown only then. The call of an upload carries the base URL and the metadata of one moment between
its start and the call; that of a lookup carries the URL of the very step that noted its
identifier. At such a moment the fields are what whole edits have left of them, and no later edit
changes a request that was read. -/
theorem calls_of_operations (settings : Settings) (files : FileTree) (steps : List Step) :
    let s := fresh settings files
    (∀ i task input, s.Does steps i task (.start (.upload input)) →
        ((∀ k c, ¬ s.Does steps k task (.call c)) ∧ (s.run steps).callsOf task = []) ∨
          ∃ j k r, i < j ∧ j < k ∧ s.Does steps k task (.call (.upload r)) ∧
            (s.run steps).callsOf task = [.upload r] ∧
            r.input = input ∧
            r.baseUrl = (s.upTo steps j).form.fields.baseUrl ∧
            r.metadata = (s.upTo steps j).form.fields.metadata ∧
            r = (s.edited (steps.take j)).uploadRequest input) ∧
      (∀ i task contentId, s.Does steps i task (.start (.status contentId)) →
        ((∀ k c, ¬ s.Does steps k task (.call c)) ∧ (s.run steps).callsOf task = []) ∨
          ∃ j k r, i < j ∧ j < k ∧ s.Does steps k task (.call (.status r)) ∧
            (s.run steps).callsOf task = [.status r] ∧
            r.contentId = contentId ∧
            (s.upTo steps (j + 1)).form.fields =
              { (s.upTo steps j).form.fields with contentId := some contentId } ∧
            s.Does steps j task (.ask r) ∧
            r.urlPrefix = (s.upTo steps j).form.fields.contentStatusUrl ∧
            r = (s.edited (steps.take j)).statusRequest contentId) ∧
      (∀ k task r reply, s.Does steps k task (.showUpload r reply) →
        (s.run steps).callsOf task = [.upload r]) ∧
      (∀ k task r reply, s.Does steps k task (.showStatus r reply) →
        (s.run steps).callsOf task = [.status r]) ∧
      (∀ j k task r c, s.Does steps j task (.compose r) → s.Does steps k task (.call c) →
        c = .upload r) ∧
      ∀ j k task r c, s.Does steps j task (.ask r) → s.Does steps k task (.call c) →
        c = .status r := by
  intro s
  have hnew : ∀ task, s.tasks task = none := fun _ ↦ rfl
  refine ⟨?_, ?_, ?_, ?_, ?_, ?_⟩
  · intro i task input hstart
    rcases s.callsOf_run rfl steps task with hno | ⟨k, c, hcall, hcalls⟩
    · exact Or.inl hno
    obtain ⟨hoperation, j, hi, hj, hread⟩ := hstart.call_of_start (hnew task) hcall
    cases c with
    | status r => cases hoperation
    | upload r =>
        cases hoperation
        have hr : r = (s.upTo steps j).form.uploadRequest r.input := hread.reads
        refine Or.inr ⟨j, k, r, hi, hj, hcall, hcalls, rfl, congrArg UploadRequest.baseUrl hr,
          congrArg UploadRequest.metadata hr, ?_⟩
        exact hr.trans (s.uploadRequest_run (steps.take j) r.input)
  · intro i task contentId hstart
    rcases s.callsOf_run rfl steps task with hno | ⟨k, c, hcall, hcalls⟩
    · exact Or.inl hno
    obtain ⟨hoperation, j, hi, hj, hread⟩ := hstart.call_of_start (hnew task) hcall
    cases c with
    | upload r => cases hoperation
    | status r =>
        cases hoperation
        have hr : r = (s.upTo steps j).form.statusRequest r.contentId := hread.reads
        have hnoted := congrArg Form.fields hread.performs.form
        refine Or.inr ⟨j, k, r, hi, hj, hcall, hcalls, rfl, hnoted, hread,
          congrArg StatusRequest.urlPrefix hr, ?_⟩
        exact hr.trans (s.statusRequest_run (steps.take j) r.contentId)
  · intro k task r reply hd
    obtain ⟨i, -, -, -, hcall, -⟩ := hd.of_shown (hnew task) (.showUpload r reply)
    exact hcall.callsOf_eq rfl
  · intro k task r reply hd
    obtain ⟨i, -, -, -, hcall, -⟩ := hd.of_shown (hnew task) (.showStatus r reply)
    exact hcall.callsOf_eq rfl
  · intro j k task r c hcompose hcall
    have hread : s.Does steps j task (Call.upload r).reading := hcompose
    exact hread.call_of_reading (hnew task) hcall
  · intro j k task r c hask hcall
    have hread : s.Does steps j task (Call.status r).reading := hask
    exact hread.call_of_reading (hnew task) hcall

/-- Another base URL is selected when an upload and a lookup have read the fields. -/
def reselectedSteps (input : UploadInput) : List Step :=
  [.start 0 (.upload input), .start 1 (.status "a"), .advance 0, .advance 1,
    .start 2 (.edit (.selectBaseUrl "http://b")), .advance 2, .advance 0, .advance 0, .advance 1,
    .answer 0 (.error .uploadFailed), .answer 1 (.ok .null), .advance 0, .advance 1]

/-- Both calls carry what was read, and neither is made again though the upload fails. -/
theorem calls_after_reselection :
    let input : UploadInput := ⟨⟨"f", []⟩, "m", "k"⟩
    let s := fresh {} ⟨[], []⟩
    let t := s.run (reselectedSteps input)
    t.callsOf 0 = [.upload ⟨"http://localhost:1414", input, {}⟩] ∧
      t.callsOf 1 = [.status ⟨"http://localhost:1414/open/stats/content/", "a"⟩] ∧
      t.form.fields.baseUrl = "http://b" := by
  intro input s t
  let steps := reselectedSteps input
  obtain ⟨-, -, huploads, hlookups, hcomposed, hasked⟩ := calls_of_operations {} ⟨[], []⟩ steps
  have hnew : ∀ task, s.tasks task = none := fun _ ↦ rfl
  have hturns : (Operation.upload input).schedule 0 (.error .uploadFailed) <+: turnsOf 0 steps :=
    ⟨[], rfl⟩
  have hturns' : (Operation.status "a").schedule 1 (.ok .null) <+: turnsOf 1 steps := ⟨[], rfl⟩
  obtain ⟨_, _, k, _, m, -, -, -, -, -, -, hcall, -, hshow, -⟩ := upload_completes (hnew 0) hturns
  obtain ⟨_, _, k', _, m', -, -, -, -, -, -, hcall', -, hshow', -⟩ :=
    lookup_completes (hnew 1) hturns'
  have hcompose : s.Does steps 2 0 (.compose ⟨"http://localhost:1414", input, {}⟩) :=
    ⟨_, rfl, rfl, rfl⟩
  have hask : s.Does steps 3 1 (.ask ⟨"http://localhost:1414/open/stats/content/", "a"⟩) :=
    ⟨_, rfl, rfl, rfl⟩
  refine ⟨?_, ?_, rfl⟩
  · rw [← hcomposed 2 k 0 _ _ hcompose hcall]
    exact huploads m 0 _ _ hshow
  · rw [← hasked 3 k' 1 _ _ hask hcall']
    exact hlookups m' 1 _ _ hshow'

end Session

end DealForm
