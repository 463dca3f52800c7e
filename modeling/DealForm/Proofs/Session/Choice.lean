import DealForm.Proofs.Session.Alone
import DealForm.Proofs.Session.Translation
import DealForm.Proofs.Session.Urls

/-!
# Choosing a preset

A key means the first preset of that name, wherever in the list it stands, and only without one the
first preset of that URL. The choice of a preset is then the selection of its URL: if every task
that chooses one selected the URL instead, a run would show, save, call and log the same.
-/

namespace DealForm

namespace Preset

variable {presets more : List Preset} {key : String} {p : Preset} {P : Preset → Prop}

/-! ## The first preset of a name or a URL -/

/-- Of the presets with this property it is the one at the least index. -/
def IsFirst (P : Preset → Prop) (presets : List Preset) (p : Preset) : Prop :=
  ∃ i : Nat, presets[i]? = some p ∧ P p ∧
    ∀ (j : Nat) (q : Preset), j < i → presets[j]? = some q → ¬ P q

theorem find?_eq_some_iff_isFirst {f : Preset → Bool} (hf : ∀ q, f q = true ↔ P q) :
    presets.find? f = some p ↔ IsFirst P presets p := by
  rw [List.find?_eq_some_iff_getElem]
  constructor
  · rintro ⟨hp, i, hi, hget, hbefore⟩
    refine ⟨i, List.getElem?_eq_some_iff.mpr ⟨hi, hget⟩, (hf p).mp hp, ?_⟩
    intro j q hj hq hPq
    obtain ⟨hlength, rfl⟩ := List.getElem?_eq_some_iff.mp hq
    simpa [(hf _).mpr hPq] using hbefore j hj
  · rintro ⟨i, hget, hp, hbefore⟩
    obtain ⟨hi, hget⟩ := List.getElem?_eq_some_iff.mp hget
    refine ⟨(hf p).mpr hp, i, hi, hget, ?_⟩
    intro j hj
    have hq := hbefore j _ hj (List.getElem?_eq_getElem (hj.trans hi))
    simpa [← hf] using hq

theorem find?_name_eq_some_iff :
    presets.find? (·.name == key) = some p ↔ IsFirst (·.name = key) presets p :=
  find?_eq_some_iff_isFirst fun _ ↦ beq_iff_eq

theorem find?_url_eq_some_iff :
    presets.find? (·.url == key) = some p ↔ IsFirst (·.url = key) presets p :=
  find?_eq_some_iff_isFirst fun _ ↦ beq_iff_eq

theorem find?_name_eq_none_iff :
    presets.find? (·.name == key) = none ↔ ∀ q ∈ presets, q.name ≠ key := by
  simp

theorem find?_eq_some_iff : find? presets key = some p ↔
    IsFirst (·.name = key) presets p ∨
      ((∀ q ∈ presets, q.name ≠ key) ∧ IsFirst (·.url = key) presets p) := by
  rw [find?, Option.or_eq_some_iff, find?_name_eq_some_iff, find?_name_eq_none_iff,
    find?_url_eq_some_iff]

theorem find?_eq_none_iff :
    find? presets key = none ↔ ∀ q ∈ presets, q.name ≠ key ∧ q.url ≠ key := by
  simp [find?, Option.or_eq_none_iff, forall_and]

theorem exists_isFirst_name (h : ∃ q ∈ presets, q.name = key) :
    ∃ p, IsFirst (·.name = key) presets p := by
  cases hfind : presets.find? (·.name == key) with
  | some p => exact ⟨p, find?_name_eq_some_iff.mp hfind⟩
  | none =>
      obtain ⟨q, hq, hname⟩ := h
      exact absurd hname (find?_name_eq_none_iff.mp hfind q hq)

theorem IsFirst.append (h : IsFirst P presets p) (more : List Preset) :
    IsFirst P (presets ++ more) p := by
  obtain ⟨i, hget, hp, hbefore⟩ := h
  have hi := (List.getElem?_eq_some_iff.mp hget).1
  refine ⟨i, ?_, hp, ?_⟩
  · rw [List.getElem?_append_left hi, hget]
  · intro j q hj hq
    rw [List.getElem?_append_left (hj.trans hi)] at hq
    exact hbefore j q hj hq

end Preset

/-! ## Selections in the place of choices -/

/-- The selection of the URL that the key means, if it means one. -/
def Operation.resolve (presets : List Preset) : Operation → Operation
  | selectPreset key =>
    match Preset.find? presets key with
    | some p => edit (.selectBaseUrl p.url)
    | none => selectPreset key
  | operation => operation

def Step.resolve (presets : List Preset) : Step → Step
  | start task operation => start task (operation.resolve presets)
  | x => x

def Phase.resolve (presets : List Preset) : Phase → Phase
  | choosing key =>
    match Preset.find? presets key with
    | some p => editing (.selectBaseUrl p.url)
    | none => choosing key
  | phase => phase

theorem Operation.firstPhase_resolve (presets : List Preset) (operation : Operation) :
    (operation.resolve presets).firstPhase = operation.firstPhase.resolve presets := by
  cases operation with
  | selectPreset key =>
      simp only [Operation.resolve, Phase.resolve, firstPhase]
      cases Preset.find? presets key <;> rfl
  | _ => rfl

theorem Phase.resolve_eq_ended (presets : List Preset) (phase : Phase) (outcome : Outcome) :
    phase.resolve presets = .ended outcome ↔ phase = .ended outcome := by
  cases phase with
  | choosing key =>
      simp only [Phase.resolve]
      cases Preset.find? presets key <;> simp
  | _ => simp [Phase.resolve]

/-- The selection of a URL stands in the place of each choice that means one. -/
def resolving (presets : List Preset) : Translation where
  phase := Phase.resolve presets
  operation := Operation.resolve presets
  firstPhase_operation := Operation.firstPhase_resolve presets
  phase_eq_ended := Phase.resolve_eq_ended presets

theorem resolving_step (presets : List Preset) :
    (resolving presets).step = Step.resolve presets := by
  funext x
  cases x <;> rfl

/-- A form of settings chooses the preset that the settings find. -/
theorem Form.toOption_presetEdit_ofSettings (settings : Settings) (key : String) :
    ((ofSettings settings).presetEdit key).toOption =
      (settings.findPreset? key).map fun p ↦ .selectBaseUrl p.url := by
  have hfind : settings.findPreset? key = Preset.find? (ofSettings settings).presets key := rfl
  rw [presetEdit, hfind]
  cases Preset.find? (ofSettings settings).presets key <;> rfl

namespace Session

variable {s t : Session} {task : Nat} {presets : List Preset} {key : String} {p : Preset}

theorem presetEdit_of_find? {f : Form} (h : Preset.find? f.presets key = some p) :
    f.presetEdit key = .ok (.selectBaseUrl p.url) := by
  simp [Form.presetEdit, h]

theorem presetEdit_of_find?_eq_none {f : Form} (h : Preset.find? f.presets key = none) :
    f.presetEdit key = .error (.notFound (.preset key)) := by
  simp [Form.presetEdit, h]

theorem resolving_advanceFrom (h : s.form.presets = presets) (task : Nat) (phase : Phase) :
    ((resolving presets).session s).advanceFrom task (phase.resolve presets) =
      (resolving presets).session (s.advanceFrom task phase) := by
  cases phase with
  | editing change => exact (resolving presets).session_makeEdit s task change
  | choosing key =>
      have hform : ((resolving presets).session s).form = s.form := rfl
      cases hfind : Preset.find? presets key with
      | some p =>
          have hedit := presetEdit_of_find? (h ▸ hfind)
          simp only [Phase.resolve, hfind, advanceFrom, hedit]
          exact (resolving presets).session_makeEdit s task _
      | none =>
          have herror := presetEdit_of_find?_eq_none (h ▸ hfind)
          simp only [Phase.resolve, hfind, advanceFrom, hform, herror]
          exact (resolving presets).session_end (by rfl) task _
  | uploadAnnounced | statusComposed =>
      apply (resolving presets).session_enter ?_ (by rfl) task
      exact (resolving presets).session_call (by rfl) (by rfl) task
  | downloadNamed file text => exact (resolving presets).session_save s task file text
  | uploadWaiting | statusWaiting | ended => rfl
  | _ => exact (resolving presets).session_enter (by rfl) (by rfl) task

theorem resolving_answerFrom (s : Session) (task : Nat) (reply : Reply) (phase : Phase) :
    ((resolving presets).session s).answerFrom task reply (phase.resolve presets) =
      (resolving presets).session (s.answerFrom task reply phase) := by
  cases phase with
  | choosing key =>
      simp only [Phase.resolve]
      split <;> rfl
  | uploadWaiting | statusWaiting =>
      exact (resolving presets).session_enter (by rfl) (by rfl) task
  | _ => rfl

theorem presets_run (s : Session) (steps : List Step) :
    (s.run steps).form.presets = s.form.presets := by
  rw [← upTo_length, presets_upTo]

theorem resolving_run (h : s.form.presets = presets) (steps : List Step) :
    ((resolving presets).session s).run (steps.map (Step.resolve presets)) =
      (resolving presets).session (s.run steps) := by
  rw [← resolving_step]
  apply Translation.session_run (P := fun s ↦ s.form.presets = presets) ?_ ?_ h
  · intro s x h
    exact (s.presets_run [x]).trans h
  · intro s h
    exact ⟨resolving_advanceFrom h, resolving_answerFrom s⟩

/-! ## One choice by itself -/

theorem selectPreset_of_find? (hfree : s.tasks s.next = none)
    (hfind : Preset.find? s.form.presets key = some p) :
    s.selectPreset key = (.ok (), s.edit (.selectBaseUrl p.url)) := by
  have hedit := presetEdit_of_find? hfind
  simp [selectPreset, edit, spawn_eq, step, hfree, hedit, Operation.firstPhase, enter, advanceFrom,
    makeEdit, note, Except.map]
  funext other
  by_cases hother : other = s.next <;> simp [hother]

theorem selectPreset_of_find?_eq_none (hfree : s.tasks s.next = none)
    (hfind : Preset.find? s.form.presets key = none) :
    s.selectPreset key = (.error (.notFound (.preset key)),
      { s.enter s.next (.ended (.failed (.notFound (.preset key)))) with next := s.next + 1 }) := by
  have herror := presetEdit_of_find?_eq_none hfind
  simp [selectPreset, spawn_eq, step, hfree, herror, Operation.firstPhase, enter, advanceFrom,
    Except.map]
  funext other
  by_cases hother : other = s.next <;> simp [hother]

/-- A key means the first preset of that name or, if there is none, the first of that URL. What is
found by a name is found whatever presets follow. To choose a preset is to select its URL, by itself
in any session and among other tasks; where a key means none, only the failure of the task is
noted. -/
theorem choice_of_preset (presets : List Preset) :
    (∀ key p, Preset.find? presets key = some p ↔
      Preset.IsFirst (·.name = key) presets p ∨
        ((∀ q ∈ presets, q.name ≠ key) ∧ Preset.IsFirst (·.url = key) presets p)) ∧
    (∀ key, Preset.find? presets key = none ↔ ∀ q ∈ presets, q.name ≠ key ∧ q.url ≠ key) ∧
    (∀ key, (∃ q ∈ presets, q.name = key) → ∃ p, Preset.IsFirst (·.name = key) presets p ∧
      Preset.find? presets key = some p ∧ ∀ more, Preset.find? (presets ++ more) key = some p) ∧
    (∀ p, Preset.IsFirst (·.name = p.name) presets p → Preset.find? presets p.name = some p) ∧
    ∀ (form : Form) (files : FileTree) (steps : List Step), form.presets = presets →
      let s := (ofForm form files).run steps
      let resolved := (ofForm form files).run (steps.map (Step.resolve presets))
      (∀ key p, Preset.find? presets key = some p →
        s.selectPreset key = (.ok (), s.edit (.selectBaseUrl p.url)) ∧
          (s.selectPreset key).2.form = s.form.edit (.selectBaseUrl p.url)) ∧
      (∀ key, Preset.find? presets key = none →
        s.selectPreset key = (.error (.notFound (.preset key)),
          { s.enter s.next (.ended (.failed (.notFound (.preset key)))) with
            next := s.next + 1 })) ∧
      resolved.form = s.form ∧ resolved.files = s.files ∧ resolved.calls = s.calls ∧
        resolved.log = s.log ∧ ∀ task, resolved.outcome? task = s.outcome? task := by
  have hnamed : ∀ {key p}, Preset.IsFirst (·.name = key) presets p →
      Preset.find? presets key = some p := fun h ↦ Preset.find?_eq_some_iff.mpr (Or.inl h)
  refine ⟨fun key p ↦ Preset.find?_eq_some_iff, fun key ↦ Preset.find?_eq_none_iff, ?_,
    fun p hp ↦ hnamed hp, ?_⟩
  · intro key hkey
    obtain ⟨p, hp⟩ := Preset.exists_isFirst_name hkey
    refine ⟨p, hp, hnamed hp, fun more ↦ ?_⟩
    exact Preset.find?_eq_some_iff.mpr (Or.inl (hp.append more))
  · intro form files steps hform s resolved
    have hpresets : s.form.presets = presets := (presets_run _ steps).trans hform
    have hnumbered : s.IsNumbered := (isNumbered_ofForm form files).run steps
    have hfree := hnumbered s.next le_rfl
    have hresolved : resolved = (resolving presets).session s :=
      resolving_run (s := ofForm form files) hform steps
    refine ⟨?_, ?_, ?_⟩
    · intro key p hfind
      have hselect := selectPreset_of_find? hfree (hpresets ▸ hfind)
      rw [hselect]
      exact ⟨rfl, (leaves_edit hnumbered _).form⟩
    · intro key hfind
      exact selectPreset_of_find?_eq_none hfree (hpresets ▸ hfind)
    · rw [hresolved]
      have hcalls : ((resolving presets).session s).calls = s.calls := List.map_id s.calls
      exact ⟨rfl, rfl, hcalls, rfl, (resolving presets).outcome?_session s⟩

/-- A name that is the URL of an earlier preset wins over it. -/
theorem choice_of_name_like_url :
    let presets : List Preset :=
      [⟨"a", "http://u"⟩, ⟨"http://u", "http://v"⟩, ⟨"a", "http://w"⟩]
    let form := Form.ofBaseUrl "http://h" presets
    let files : FileTree := { entries := [] }
    let steps : List Step := [.start 0 (.selectPreset "http://w"), .advance 0]
    let s := (ofForm form files).run steps
    Preset.find? presets "http://u" = some ⟨"http://u", "http://v"⟩ ∧
      Preset.find? (presets ++ [⟨"http://u", "http://x"⟩]) "http://u" =
        some ⟨"http://u", "http://v"⟩ ∧
      Preset.find? presets "a" = some ⟨"a", "http://u"⟩ ∧
      Preset.find? presets "http://x" = none ∧
      s.selectPreset "http://u" = (.ok (), s.edit (.selectBaseUrl "http://v")) ∧
      (s.selectPreset "http://x").1 = .error (.notFound (.preset "http://x")) ∧
      s.form.fields.baseUrl = "http://w" := by
  intro presets form files steps s
  obtain ⟨hsome, hnone, happend, hname, hsessions⟩ := choice_of_preset presets
  have hfirst : Preset.IsFirst (·.name = "http://u") presets ⟨"http://u", "http://v"⟩ := by
    refine ⟨1, rfl, rfl, fun j q hj hq ↦ ?_⟩
    obtain rfl : j = 0 := by omega
    cases hq
    decide
  have hfirst' : Preset.IsFirst (·.name = "a") presets ⟨"a", "http://u"⟩ :=
    ⟨0, rfl, rfl, nofun⟩
  have hfound := (hsome _ _).mpr (Or.inl hfirst)
  have hmissing := (hnone "http://x").mpr (by decide)
  obtain ⟨p, -, hp, hmore⟩ := happend "http://u" ⟨⟨"http://u", "http://v"⟩, by decide, rfl⟩
  obtain rfl := Option.some.inj (hp.symm.trans hfound)
  obtain ⟨hselect, hrefuse, hform, -⟩ := hsessions form files steps rfl
  refine ⟨hfound, hmore _, hname _ hfirst', hmissing, (hselect _ _ hfound).1, ?_, ?_⟩
  · rw [hrefuse _ hmissing]
  · rw [← hform]
    decide

end Session

end DealForm
