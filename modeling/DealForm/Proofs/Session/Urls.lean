import DealForm.Proofs.Session.Independence

/-!
# The two URLs of a form

A selection writes the base URL and the URL for lookups at once, by itself or as the choice of a
preset; each of the two can also be edited alone. So each URL is what the last edit that writes it
made of it, and the two belong together as long as the last edit of one of them is a selection.
-/

namespace DealForm

namespace Operation

/-- The base URL that an operation selects. The choice of a preset that there is not selects
none. -/
def selectedUrl? (presets : List Preset) : Operation → Option String
  | edit (.selectBaseUrl url) => some url
  | selectPreset key => (Preset.find? presets key).map (·.url)
  | _ => none

def baseUrl? (presets : List Preset) : Operation → Option String
  | edit (.setBaseUrl url) => some url
  | o => o.selectedUrl? presets

def contentStatusUrl? (presets : List Preset) : Operation → Option String
  | edit (.setContentStatusUrl url) => some url
  | o => (o.selectedUrl? presets).map DealForm.contentStatusUrl

/-- Operations that have nothing to do with the URLs. -/
def sparesUrls : Operation → Bool
  | edit (.setMetadata _) | edit (.setResponseArea _) | upload _ | status _ | download _ => true
  | _ => false

theorem baseUrl?_eq_or (presets : List Preset) (o : Operation) :
    o.baseUrl? presets = o.selectedUrl? presets ∨ ∃ url, o = edit (.setBaseUrl url) := by
  cases o with
  | edit change => cases change <;> simp [baseUrl?]
  | _ => exact Or.inl rfl

theorem contentStatusUrl?_eq_or (presets : List Preset) (o : Operation) :
    o.contentStatusUrl? presets = (o.selectedUrl? presets).map DealForm.contentStatusUrl ∨
      ∃ url, o = edit (.setContentStatusUrl url) := by
  cases o with
  | edit change => cases change <;> simp [contentStatusUrl?]
  | _ => exact Or.inl rfl

theorem urls_of_sparesUrls {o : Operation} (h : o.sparesUrls = true) (presets : List Preset) :
    o.baseUrl? presets = none ∧ o.contentStatusUrl? presets = none := by
  cases o with
  | edit change => cases change <;> first | exact ⟨rfl, rfl⟩ | cases h
  | selectPreset => cases h
  | _ => exact ⟨rfl, rfl⟩

end Operation

namespace Part

def baseUrl : Part String where
  read f := f.fields.baseUrl
  sets
    | .edit (.selectBaseUrl url) => some url
    | .edit (.setBaseUrl url) => some url
    | _ => none
  read_onForm a f := by
    cases a with
    | edit change => cases change <;> rfl
    | _ => rfl

def contentStatusUrl : Part String where
  read f := f.fields.contentStatusUrl
  sets
    | .edit (.selectBaseUrl url) => some (DealForm.contentStatusUrl url)
    | .edit (.setContentStatusUrl url) => some url
    | _ => none
  read_onForm a f := by
    cases a with
    | edit change => cases change <;> rfl
    | _ => rfl

def presets : Part (List Preset) where
  read f := f.presets
  sets _ := none
  read_onForm a f := by
    cases a with
    | edit change => cases change <;> rfl
    | _ => rfl

theorem baseUrl_sets_eq_some {a : Act} {url : String} (h : baseUrl.sets a = some url) :
    ∃ change, a = .edit change := by
  cases a with
  | edit change => exact ⟨change, rfl⟩
  | _ => cases h

theorem contentStatusUrl_sets_eq_some {a : Act} {url : String}
    (h : contentStatusUrl.sets a = some url) : ∃ change, a = .edit change := by
  cases a with
  | edit change => exact ⟨change, rfl⟩
  | _ => cases h

end Part

namespace Session

variable {s : Session} {steps : List Step} {i j k task : Nat} {a : Act} {o : Operation}
  {key : String} {change : Edit}

theorem presets_upTo (s : Session) (steps : List Step) (k : Nat) :
    (s.upTo steps k).form.presets = s.form.presets :=
  read_upTo_eq .presets (Nat.zero_le k) fun _ _ _ _ _ _ ↦ rfl

/-! ## Choices of presets -/

/-- A task that waits for nothing and has a preset to choose makes the edit of the preset or
fails. -/
theorem act?_of_choosing {x : Step} (hp : s.tasks x.task = some (.choosing key))
    (h : s.act? x = some a) :
    (∃ preset, Preset.find? s.form.presets key = some preset ∧
        a = .edit (.selectBaseUrl preset.url)) ∨
      (Preset.find? s.form.presets key = none ∧ a = .refuse (.notFound (.preset key))) := by
  cases x with
  | start task o => simp_all [act?, Step.task]
  | answer task reply => simp_all [act?, Step.task, actOnReply]
  | advance task =>
      rw [Step.task] at hp
      rw [act?, hp, Option.bind_some, actFrom, Form.presetEdit] at h
      cases hfind : Preset.find? s.form.presets key with
      | none =>
          rw [hfind] at h
          cases h
          exact Or.inr ⟨rfl, rfl⟩
      | some preset =>
          rw [hfind] at h
          cases h
          exact Or.inl ⟨preset, rfl, rfl⟩

theorem Does.of_selectPreset (hnew : s.tasks task = none)
    (hstart : s.Does steps i task (.start (.selectPreset key))) (h : s.Does steps k task a) :
    a = .start (.selectPreset key) ∨
      (∃ preset, Preset.find? s.form.presets key = some preset ∧
        a = .edit (.selectBaseUrl preset.url)) ∨
      (Preset.find? s.form.presets key = none ∧ a = .refuse (.notFound (.preset key))) := by
  rcases h.exists_before hnew with ⟨o, rfl⟩ | ⟨j, b, -, hb, hp⟩
  · left
    rw [(h.start_unique hstart).2]
  · right
    obtain ⟨x, -, rfl, hact⟩ := h
    obtain ⟨i', o, hstart', hfor⟩ := hb.isFor hnew
    obtain ⟨-, rfl⟩ := hstart'.start_unique hstart
    cases hfor with
    | start =>
        have hchosen := act?_of_choosing hp hact
        rwa [s.presets_upTo steps k] at hchosen
    | select | refuse =>
        rw [act?_of_ended hp] at hact
        cases hact

/-! ## Completed operations -/

/-- In step `k` a task that was started for this operation makes its edit. -/
def Completes (s : Session) (steps : List Step) (k : Nat) (o : Operation) : Prop :=
  ∃ i task change, s.Does steps i task (.start o) ∧ s.Does steps k task (.edit change)

/-- The last completed operation that gives a value gives this one; or none gives any, and this is
the first one. -/
def LastGives (s : Session) (steps : List Step) (gives : Operation → Option String)
    (first value : String) : Prop :=
  ((∀ k o, s.Completes steps k o → gives o = none) ∧ value = first) ∨
    ∃ k o, s.Completes steps k o ∧ gives o = some value ∧
      ∀ j o', k < j → s.Completes steps j o' → gives o' = none

/-- An edit of a task writes to the URLs what the operation of the task says. -/
theorem Does.sets_urls (hnew : s.tasks task = none) (hstart : s.Does steps i task (.start o))
    (h : s.Does steps k task (.edit change)) :
    Part.baseUrl.sets (.edit change) = o.baseUrl? s.form.presets ∧
      Part.contentStatusUrl.sets (.edit change) = o.contentStatusUrl? s.form.presets := by
  obtain ⟨i', o', hstart', hfor⟩ := h.isFor hnew
  obtain ⟨-, rfl⟩ := hstart'.start_unique hstart
  cases hfor with
  | edit => cases change <;> exact ⟨rfl, rfl⟩
  | select key url =>
      rcases hstart.of_selectPreset hnew h with hact | ⟨preset, hfind, hact⟩ | ⟨-, hact⟩
      · cases hact
      · cases hact
        simp [Operation.baseUrl?, Operation.contentStatusUrl?, Operation.selectedUrl?, hfind,
          Part.baseUrl, Part.contentStatusUrl]
      · cases hact

/-- What is known of the last act to set a part of the form, said of completed operations. -/
theorem lastGives_of_last_set (hnew : ∀ task, s.tasks task = none) (part : Part String)
    {gives : Operation → Option String}
    (hedits : ∀ a url, part.sets a = some url → ∃ change, a = .edit change)
    (hgives : ∀ i k task o change, s.Does steps i task (.start o) →
      s.Does steps k task (.edit change) → part.sets (.edit change) = gives o) :
    s.LastGives steps gives (part.read s.form) (part.read (s.run steps).form) := by
  rcases last_set part s steps with ⟨hnever, hsame⟩ | ⟨k, task, a, hd, ha, hlast⟩
  · refine Or.inl ⟨?_, hsame⟩
    rintro k o ⟨i, task, change, hstart, hedit⟩
    rw [← hgives i k task o change hstart hedit]
    exact hnever k task _ hedit
  · obtain ⟨change, rfl⟩ := hedits a _ ha
    obtain ⟨i, o, hstart, -⟩ := hd.isFor (hnew task)
    refine Or.inr ⟨k, o, ⟨i, task, change, hstart, hd⟩, ?_, ?_⟩
    · rw [← hgives i k task o change hstart hd]
      exact ha
    · rintro j o' hj ⟨i', other, change', hstart', hedit⟩
      rw [← hgives i' j other o' change' hstart' hedit]
      exact hlast j other _ hj hedit

theorem Completes.unique {o' : Operation} (h : s.Completes steps k o)
    (h' : s.Completes steps k o') : o = o' := by
  obtain ⟨i, task, change, hstart, hedit⟩ := h
  obtain ⟨i', task', change', hstart', hedit'⟩ := h'
  obtain ⟨rfl, -⟩ := hedit.unique hedit'
  exact (hstart.start_unique hstart').2

namespace LastGives

variable {gives : Operation → Option String} {first value value' : String}

theorem map (f : String → String) (h : s.LastGives steps gives first value) :
    s.LastGives steps (fun o ↦ (gives o).map f) (f first) (f value) := by
  rcases h with ⟨hnone, rfl⟩ | ⟨k, o, ho, hvalue, hlast⟩
  · exact Or.inl ⟨fun k o ho ↦ congrArg (Option.map f) (hnone k o ho), rfl⟩
  · exact Or.inr ⟨k, o, ho, congrArg (Option.map f) hvalue,
      fun j o' hj ho' ↦ congrArg (Option.map f) (hlast j o' hj ho')⟩

theorem unique (h : s.LastGives steps gives first value)
    (h' : s.LastGives steps gives first value') : value = value' := by
  rcases h with ⟨hnone, rfl⟩ | ⟨k, o, ho, hvalue, hlast⟩
  · rcases h' with ⟨-, rfl⟩ | ⟨k', o', ho', hvalue', -⟩
    · rfl
    · rw [hnone k' o' ho'] at hvalue'
      cases hvalue'
  · rcases h' with ⟨hnone', -⟩ | ⟨k', o', ho', hvalue', hlast'⟩
    · rw [hnone' k o ho] at hvalue
      cases hvalue
    · rcases Nat.lt_trichotomy k k' with hlt | rfl | hlt
      · rw [hlast k' o' hlt ho'] at hvalue'
        cases hvalue'
      · rw [ho.unique ho', hvalue'] at hvalue
        exact (Option.some.inj hvalue).symm
      · rw [hlast' k o hlt ho] at hvalue
        cases hvalue

/-- Operations that are followed by one that gives a value do not count. -/
theorem of_followed {fewer : Operation → Option String}
    (h : s.LastGives steps gives first value)
    (hfewer : ∀ o, gives o = fewer o ∨ fewer o = none)
    (hfollowed : ∀ k o, s.Completes steps k o → gives o ≠ fewer o →
      ∃ j o', k < j ∧ s.Completes steps j o' ∧ fewer o' ≠ none) :
    s.LastGives steps fewer first value := by
  have hnone : ∀ o, gives o = none → fewer o = none := by
    intro o ho
    rcases hfewer o with hsame | hfew
    · exact hsame ▸ ho
    · exact hfew
  rcases h with ⟨hnever, hfirst⟩ | ⟨k, o, ho, hvalue, hlast⟩
  · exact Or.inl ⟨fun k o ho ↦ hnone o (hnever k o ho), hfirst⟩
  · refine Or.inr ⟨k, o, ho, ?_, fun j o' hj ho' ↦ hnone o' (hlast j o' hj ho')⟩
    by_contra hne
    have hother : gives o ≠ fewer o := fun hsame ↦ hne (hsame ▸ hvalue)
    obtain ⟨j, o', hj, ho', hgiven⟩ := hfollowed k o ho hother
    exact hgiven (hnone o' (hlast j o' hj ho'))

/-- Edits of one URL alone count for nothing if each is followed by a selection; then the URL for
lookups is derived from the base URL. -/
theorem derived_of_followed {presets : List Preset} {base status : String}
    (hstatus : s.LastGives steps (·.contentStatusUrl? presets) (contentStatusUrl first) status)
    (hbase : s.LastGives steps (·.baseUrl? presets) first base)
    (hfollowed : ∀ j u, s.Completes steps j (.edit (.setBaseUrl u)) ∨
      s.Completes steps j (.edit (.setContentStatusUrl u)) →
        ∃ k o, j < k ∧ s.Completes steps k o ∧ o.selectedUrl? presets ≠ none) :
    status = contentStatusUrl base := by
  have hselected : s.LastGives steps (·.selectedUrl? presets) first base := by
    apply hbase.of_followed
    · intro o
      rcases o.baseUrl?_eq_or presets with hsame | ⟨u, rfl⟩
      · exact Or.inl hsame
      · exact Or.inr rfl
    · intro k o ho hne
      rcases o.baseUrl?_eq_or presets with hsame | ⟨u, rfl⟩
      · exact absurd hsame hne
      · exact hfollowed k u (Or.inl ho)
  have hderived : s.LastGives steps (fun o ↦ (o.selectedUrl? presets).map contentStatusUrl)
      (contentStatusUrl first) status := by
    apply hstatus.of_followed
    · intro o
      rcases o.contentStatusUrl?_eq_or presets with hsame | ⟨u, rfl⟩
      · exact Or.inl hsame
      · exact Or.inr rfl
    · intro k o ho hne
      rcases o.contentStatusUrl?_eq_or presets with hsame | ⟨u, rfl⟩
      · exact absurd hsame hne
      · obtain ⟨j, o', hj, ho', hgiven⟩ := hfollowed k u (Or.inr ho)
        exact ⟨j, o', hj, ho', by simpa using hgiven⟩
  exact hderived.unique (hselected.map contentStatusUrl)

end LastGives

/-! ## Acts that change no part of the form -/

/-- A task that starts or fails changes nothing but its own standing. -/
theorem step_eq_of_start_or_refuse {x : Step}
    (h : (∃ o, s.act? x = some (.start o)) ∨ ∃ error, s.act? x = some (.refuse error)) :
    s.step x = { s with tasks := (s.step x).tasks, next := (s.step x).next } := by
  rcases h with ⟨o, hact⟩ | ⟨error, hact⟩
  · obtain ⟨hx, hfree⟩ := eq_start_of_act? hact
    rw [hx, step, hfree]
    rfl
  · cases x with
    | start task o =>
        simp only [act?] at hact
        split at hact <;> cases hact
    | answer task reply =>
        obtain ⟨p, -, hact⟩ := Option.bind_eq_some_iff.mp hact
        cases p <;> cases hact
    | advance task =>
        obtain ⟨p, hp, hact⟩ := Option.bind_eq_some_iff.mp hact
        cases p with
        | choosing key =>
            simp only [actFrom] at hact
            split at hact
            · cases hact
            · next hpreset =>
              simp only [step, hp, advanceFrom, hpreset]
              rfl
        | _ => cases hact

theorem Does.upTo_succ_eq (h : s.Does steps k task a)
    (ha : (∃ o, a = .start o) ∨ ∃ error, a = .refuse error) :
    s.upTo steps (k + 1) = { s.upTo steps k with
      tasks := (s.upTo steps (k + 1)).tasks
      next := (s.upTo steps (k + 1)).next } := by
  obtain ⟨x, hx, rfl, hact⟩ := h
  rw [s.upTo_succ hx]
  apply step_eq_of_start_or_refuse
  rcases ha with ⟨o, rfl⟩ | ⟨error, rfl⟩
  · exact Or.inl ⟨o, hact⟩
  · exact Or.inr ⟨error, hact⟩

theorem Does.upTo_succ_of_missing (hnew : s.tasks task = none)
    (hmissing : Preset.find? s.form.presets key = none)
    (hstart : s.Does steps i task (.start (.selectPreset key))) (h : s.Does steps k task a) :
    s.upTo steps (k + 1) = { s.upTo steps k with
      tasks := (s.upTo steps (k + 1)).tasks
      next := (s.upTo steps (k + 1)).next } := by
  apply h.upTo_succ_eq
  rcases hstart.of_selectPreset hnew h with hact | ⟨preset, hfind, -⟩ | ⟨-, hact⟩
  · exact Or.inl ⟨_, hact⟩
  · rw [hmissing] at hfind
    cases hfind
  · exact Or.inr ⟨_, hact⟩

theorem Does.outcome_of_missing (hnew : s.tasks task = none)
    (hmissing : Preset.find? s.form.presets key = none)
    (hstart : s.Does steps i task (.start (.selectPreset key))) {outcome : Outcome}
    (h : (s.run steps).outcome? task = some outcome) :
    outcome = .failed (.notFound (.preset key)) := by
  have hended : (s.run steps).tasks task = some (.ended outcome) := by
    unfold outcome? at h
    split at h
    · next hp =>
      cases h
      exact hp
    · cases h
  obtain ⟨k, a, hd, hphase⟩ := exists_does_of_tasks hnew hended
  rcases hstart.of_selectPreset hnew hd with rfl | ⟨preset, hfind, -⟩ | ⟨-, rfl⟩
  · cases hphase
  · rw [hmissing] at hfind
    cases hfind
  · cases hphase
    rfl

theorem Does.keeps_urls (hnew : s.tasks task = none) (hspares : o.sparesUrls = true)
    (hstart : s.Does steps i task (.start o)) (h : s.Does steps k task a) :
    (s.upTo steps (k + 1)).form.fields.baseUrl = (s.upTo steps k).form.fields.baseUrl ∧
      (s.upTo steps (k + 1)).form.fields.contentStatusUrl =
        (s.upTo steps k).form.fields.contentStatusUrl := by
  obtain ⟨hbase, hstatus⟩ := Operation.urls_of_sparesUrls hspares s.form.presets
  have hnone : Part.baseUrl.sets a = none ∧ Part.contentStatusUrl.sets a = none := by
    cases a with
    | edit change =>
        obtain ⟨hsetsBase, hsetsStatus⟩ := hstart.sets_urls hnew h
        exact ⟨hsetsBase.trans hbase, hsetsStatus.trans hstatus⟩
    | _ => exact ⟨rfl, rfl⟩
  have hreadBase := Part.baseUrl.read_onForm a (s.upTo steps k).form
  have hreadStatus := Part.contentStatusUrl.read_onForm a (s.upTo steps k).form
  rw [hnone.1, ← h.performs.form] at hreadBase
  rw [hnone.2, ← h.performs.form] at hreadStatus
  exact ⟨hreadBase, hreadStatus⟩

/-- The base URL is that of the last operation that set or selected one, and the URL for lookups
that of the last one that set it or selected a base URL, from which it is then derived. So it
belongs to the base URL unless one of the two was edited alone after the last selection. The choice
of a preset that there is not fails and changes nothing, and uploads, lookups, downloads and edits
of other values leave both URLs. -/
theorem urls_of_last_edits (url : String) (presets : List Preset) (files : FileTree)
    (steps : List Step) :
    let s := ofForm (.ofBaseUrl url presets) files
    let fields := (s.run steps).form.fields
    s.LastGives steps (·.baseUrl? presets) url fields.baseUrl ∧
      s.LastGives steps (·.contentStatusUrl? presets) (url ++ "/open/stats/content/")
        fields.contentStatusUrl ∧
      ((∀ j u, s.Completes steps j (.edit (.setBaseUrl u)) ∨
          s.Completes steps j (.edit (.setContentStatusUrl u)) →
            ∃ k o, j < k ∧ s.Completes steps k o ∧ o.selectedUrl? presets ≠ none) →
        fields.contentStatusUrl = fields.baseUrl ++ "/open/stats/content/") ∧
      (∀ i task key, s.Does steps i task (.start (.selectPreset key)) →
        Preset.find? presets key = none →
          (∀ k a, s.Does steps k task a → s.upTo steps (k + 1) = { s.upTo steps k with
            tasks := (s.upTo steps (k + 1)).tasks
            next := (s.upTo steps (k + 1)).next }) ∧
          ∀ outcome, (s.run steps).outcome? task = some outcome →
            outcome = .failed (.notFound (.preset key))) ∧
      ∀ i task o, s.Does steps i task (.start o) → o.sparesUrls = true →
        ∀ k a, s.Does steps k task a →
          (s.upTo steps (k + 1)).form.fields.baseUrl = (s.upTo steps k).form.fields.baseUrl ∧
            (s.upTo steps (k + 1)).form.fields.contentStatusUrl =
              (s.upTo steps k).form.fields.contentStatusUrl := by
  intro s fields
  have hnew : ∀ task, s.tasks task = none := fun _ ↦ rfl
  have hbase : s.LastGives steps (·.baseUrl? presets) url fields.baseUrl :=
    lastGives_of_last_set hnew .baseUrl (fun _ _ ↦ Part.baseUrl_sets_eq_some)
      fun _ _ task _ _ hstart hedit ↦ (hstart.sets_urls (hnew task) hedit).1
  have hstatus : s.LastGives steps (·.contentStatusUrl? presets) (contentStatusUrl url)
      fields.contentStatusUrl :=
    lastGives_of_last_set hnew .contentStatusUrl (fun _ _ ↦ Part.contentStatusUrl_sets_eq_some)
      fun _ _ task _ _ hstart hedit ↦ (hstart.sets_urls (hnew task) hedit).2
  refine ⟨hbase, hstatus, fun hfollowed ↦ ?_, ?_, ?_⟩
  · exact hstatus.derived_of_followed hbase hfollowed
  · intro i task key hstart hmissing
    exact ⟨fun k a hd ↦ hstart.upTo_succ_of_missing (hnew task) hmissing hd,
      fun outcome houtcome ↦ hstart.outcome_of_missing (hnew task) hmissing houtcome⟩
  · intro i task o hstart hspares k a hd
    exact hstart.keeps_urls (hnew task) hspares hd

/-- A base URL is typed in, and then a preset is chosen. -/
def typedAndChosenSteps : List Step :=
  [.start 0 (.edit (.setBaseUrl "http://b")), .advance 0, .start 1 (.selectPreset "p"), .advance 1]

/-- A base URL that is typed in does not reach the URL for lookups; one that is selected does. -/
theorem urls_of_typed_and_chosen :
    let presets : List Preset := [⟨"p", "http://p"⟩]
    let s := ofForm (.ofBaseUrl "http://a" presets) ⟨[], []⟩
    let typed := (s.run (typedAndChosenSteps.take 2)).form.fields
    let chosen := (s.run typedAndChosenSteps).form.fields
    s.LastGives (typedAndChosenSteps.take 2) (·.contentStatusUrl? presets)
        "http://a/open/stats/content/" typed.contentStatusUrl ∧
      typed.contentStatusUrl = "http://a/open/stats/content/" ∧ typed.baseUrl = "http://b" ∧
      chosen.contentStatusUrl = chosen.baseUrl ++ "/open/stats/content/" ∧
      chosen.baseUrl = "http://p" := by
  intro presets s typed chosen
  obtain ⟨-, htyped, -⟩ :=
    urls_of_last_edits "http://a" presets ⟨[], []⟩ (typedAndChosenSteps.take 2)
  obtain ⟨-, -, hderived, -⟩ := urls_of_last_edits "http://a" presets ⟨[], []⟩ typedAndChosenSteps
  have hchoice : s.Completes typedAndChosenSteps 3 (.selectPreset "p") :=
    ⟨2, 1, .selectBaseUrl "http://p", ⟨_, rfl, rfl, rfl⟩, ⟨_, rfl, rfl, rfl⟩⟩
  refine ⟨htyped, by decide, rfl, hderived fun j u hj ↦ ?_, rfl⟩
  refine ⟨3, _, ?_, hchoice, by decide⟩
  have hne : j ≠ 3 := by
    rintro rfl
    rcases hj with hj | hj <;> cases hj.unique hchoice
  have hlt : j < 4 := by
    rcases hj with ⟨_, _, _, -, hedit⟩ | ⟨_, _, _, -, hedit⟩ <;> exact hedit.lt_length
  omega

end Session

end DealForm
