import DealForm.Proofs.Command.Submission

/-!
# One command after the other

A command leaves its edits in the form, so a later command works with the base URL, the aim and the
metadata that were set last. What a command is called with is therefore told by the commands so far;
only where none of them aimed at anything or set metadata is it told by the settings.
-/

namespace DealForm

namespace Command

variable {presets : List Preset} {c : Command}

def aim? (presets : List Preset) (c : Command) : Option Aim :=
  if (c.target.missing? presets).isSome then none
  else if c.aim = {} then (c.target.url? presets).map fun _ ↦ {}
  else some c.aim

def metadata? (presets : List Preset) (c : Command) : Option Metadata :=
  if (c.target.missing? presets).isSome then none else c.metadata

theorem aim?_of_missing {key : String} (h : c.target.missing? presets = some key) :
    c.aim? presets = none := by
  rw [aim?, h, Option.isSome_some, if_pos rfl]

theorem aim?_getD_of_found (h : c.target.missing? presets = none) (a : Aim) :
    (c.aim? presets).getD a =
      if c.aim = {} then (if (c.target.url? presets).isSome then {} else a) else c.aim := by
  rw [aim?, h, Option.isSome_none, if_neg Bool.false_ne_true]
  split
  · cases c.target.url? presets <;> rfl
  · rfl

theorem aim?_of_aim_eq (h : c.aim = {}) : c.aim? presets = none ∨ c.aim? presets = some {} := by
  unfold aim?
  rw [if_pos h]
  split
  · exact Or.inl rfl
  · cases c.target.url? presets with
    | none => exact Or.inl rfl
    | some url => exact Or.inr rfl

theorem metadata?_of_missing {key : String} (h : c.target.missing? presets = some key) :
    c.metadata? presets = none := by
  rw [metadata?, h, Option.isSome_some, if_pos rfl]

theorem metadata?_of_metadata_eq (h : c.metadata = none) : c.metadata? presets = none := by
  unfold metadata?
  rw [h, ite_self]

theorem metadata?_of_found (h : c.target.missing? presets = none) :
    c.metadata? presets = c.metadata := by
  rw [metadata?, h, Option.isSome_none, if_neg Bool.false_ne_true]

end Command

/-- What a list of commands set last, or what stood before them. -/
def latest {α : Type} (set? : Command → Option α) (standing : α) (cs : List Command) : α :=
  (cs.reverse.findSome? set?).getD standing

theorem latest_concat {α : Type} (set? : Command → Option α) (standing : α) (cs : List Command)
    (c : Command) :
    latest set? standing (cs ++ [c]) = (set? c).getD (latest set? standing cs) := by
  rw [latest, List.reverse_append, List.reverse_singleton, List.singleton_append,
    List.findSome?_cons]
  cases set? c <;> rfl

theorem latest_of_forall_eq {α : Type} {set? : Command → Option α} {standing : α}
    {cs : List Command} (h : ∀ c ∈ cs, set? c = none ∨ set? c = some standing) :
    latest set? standing cs = standing := by
  induction cs using List.reverseRecOn with
  | nil => rfl
  | append_singleton cs c ih =>
      rw [latest_concat, ih fun c hc ↦ h c (List.mem_append_left _ hc)]
      rcases h c (by simp) with hnone | hsome
      · rw [hnone]
        rfl
      · rw [hsome]
        rfl

/-! ## Forms -/

namespace Form

variable {f g : Form} {settings : Settings} {cs : List Command}

/-- The parts of a form that calls are made with. -/
def values (f : Form) : List Preset × String × String × Metadata :=
  (f.presets, f.fields.baseUrl, f.fields.contentStatusUrl, f.fields.metadata)

/-- The form holds what the settings and the commands so far say. -/
structure Stands (f : Form) (settings : Settings) (cs : List Command) : Prop where
  presets : f.presets = settings.presets
  baseUrl : f.fields.baseUrl = latest (·.target.url? settings.presets) settings.baseUrl cs
  aimedAt : f.AimedAt (latest (Command.aim? settings.presets) {} cs)
  metadata : f.fields.metadata =
    latest (Command.metadata? settings.presets) settings.metadata cs

theorem stands_ofSettings (settings : Settings) : (ofSettings settings).Stands settings [] :=
  ⟨rfl, rfl, rfl, rfl⟩

theorem Stands.congr (h : f.Stands settings cs) (hvalues : g.values = f.values) :
    g.Stands settings cs := by
  simp only [values, Prod.mk.injEq] at hvalues
  obtain ⟨hpresets, hbase, hcontent, hmetadata⟩ := hvalues
  refine ⟨hpresets.trans h.presets, hbase.trans h.baseUrl, ?_, hmetadata.trans h.metadata⟩
  rw [AimedAt, hcontent, hbase]
  exact h.aimedAt

theorem Stands.edits (h : f.Stands settings cs) (c : Command) :
    (c.edits f).Stands settings (cs ++ [c]) := by
  have hpresets := h.presets
  cases htarget : c.target.missing? settings.presets with
  | some key =>
      have hedits : c.edits f = f := by
        apply Command.edits_of_missing
        rw [hpresets]
        exact htarget
      rw [hedits]
      refine ⟨hpresets, ?_, ?_, ?_⟩
      · rw [latest_concat, TargetOptions.url?_of_missing? htarget]
        exact h.baseUrl
      · rw [latest_concat, Command.aim?_of_missing htarget]
        exact h.aimedAt
      · rw [latest_concat, Command.metadata?_of_missing htarget]
        exact h.metadata
  | none =>
      have hedits : c.edits f =
          ((f.select (c.target.url? settings.presets)).attach c.metadata).aim c.aim := by
        rw [← hpresets] at htarget ⊢
        exact Command.edits_of_found htarget
      rw [hedits]
      refine ⟨hpresets, ?_, ?_, ?_⟩
      · rw [latest_concat, ← h.baseUrl]
        rfl
      · rw [latest_concat, Command.aim?_getD_of_found htarget]
        exact (h.aimedAt.select (c.target.url? settings.presets)).aim c.aim
      · rw [latest_concat, Command.metadata?_of_found htarget, ← h.metadata]
        rfl

end Form

/-! ## Runs of commands -/

namespace Session

variable {σ : Type} {s : Session}

def command (api : Api σ) (s : Session) (c : Command) (w : σ) : Session × σ :=
  match c with
  | .upload o => (s.uploadCommand api o w).2
  | .status o => (s.statusCommand api o w).2

/-- Runs commands one after the other, whether they fail or not. -/
def commands (api : Api σ) (s : Session) (cs : List Command) (w : σ) : Session × σ :=
  cs.foldl (fun p c ↦ p.1.command api c p.2) (s, w)

theorem commands_concat (api : Api σ) (s : Session) (cs : List Command) (c : Command) (w : σ) :
    s.commands api (cs ++ [c]) w =
      (s.commands api cs w).1.command api c (s.commands api cs w).2 := by
  rw [commands, commands, List.foldl_append, List.foldl_cons, List.foldl_nil]

/-- A lookup makes its edits and then one call, unless its preset is missing. -/
theorem command_status (h : s.IsNumbered) (api : Api σ) (o : StatusOptions) (w : σ) :
    let f := (Command.status o).edits s.form
    let t := (s.command api (.status o) w).1
    t.IsNumbered ∧ t.form.values = f.values ∧
      (o.target.missing? s.form.presets = none → ∃ task,
        t.calls = s.calls ++ [(task, .status (f.statusRequest o.contentId))]) ∧
      (∀ key, o.target.missing? s.form.presets = some key → t.calls = s.calls) := by
  intro f t
  cases hmissing : o.target.missing? s.form.presets with
  | some key =>
      obtain ⟨u, hrun, hu⟩ := statusCommand_of_missing h hmissing api w
      have ht : t = u := congrArg (·.2.1) hrun
      have hf : f = s.form := Command.edits_of_missing (c := .status o) hmissing
      rw [ht, hf, hu.form, hu.calls, List.append_nil]
      exact ⟨hu.isNumbered, rfl, nofun, fun _ _ ↦ rfl⟩
  | none =>
      obtain ⟨u, task, hrun, hu⟩ := statusCommand_of_found h hmissing api w
      have ht : t = u := congrArg (·.2.1) hrun
      have hf : f = (s.form.select (o.target.url? s.form.presets)).aim o.aim :=
        Command.edits_of_found (c := .status o) hmissing
      rw [ht, hf, hu.form, hu.calls]
      exact ⟨hu.isNumbered, rfl, fun _ ↦ ⟨task, rfl⟩, nofun⟩

/-- An upload makes its edits and then one call, unless it is refused. -/
theorem command_upload (h : s.IsNumbered) (api : Api σ) (o : UploadOptions) (w : σ) :
    let f := (Command.upload o).edits s.form
    let t := (s.command api (.upload o) w).1
    t.IsNumbered ∧ t.form.values = f.values ∧
      (¬ s.Refuses o → ∃ task content, s.files.readBytes o.file = .ok content ∧
        t.calls = s.calls ++ [(task, .upload (f.uploadRequest
          ⟨⟨FileBlob.nameOf o.file, content⟩, o.minerId, o.apiKey⟩))]) ∧
      (s.Refuses o → t.calls = s.calls) := by
  intro f t
  by_cases hrefuses : s.Refuses o
  · obtain ⟨error, u, hrun, hu⟩ := uploadCommand_of_refuses h hrefuses api w
    have ht : t = u := congrArg (·.2.1) hrun
    rw [ht, hu.form, hu.calls, List.append_nil]
    exact ⟨hu.isNumbered, rfl, absurd hrefuses, fun _ ↦ rfl⟩
  · obtain ⟨hmissing, ⟨parsed, hparse⟩, ⟨content, hread⟩⟩ := exists_of_not_refuses hrefuses
    obtain ⟨u, task, hrun, hu⟩ := uploadCommand_of_readable h hmissing hparse hread api w
    have ht : t = u := congrArg (·.2.1) hrun
    have hf : f = (s.form.select (o.target.url? s.form.presets)).attach parsed := by
      rw [← Command.metadata_upload_of_ok hparse]
      exact Command.edits_of_found (c := .upload o) hmissing
    rw [ht, hf, hu.form, hu.calls]
    exact ⟨hu.isNumbered, rfl, fun _ ↦ ⟨task, content, hread, rfl⟩, fun h ↦ absurd h hrefuses⟩

/-- After any commands the form holds what was set last. -/
theorem stands_commands (api : Api σ) (settings : Settings) (files : FileTree)
    (cs : List Command) (w : σ) :
    let s := ((fresh settings files).commands api cs w).1
    s.IsNumbered ∧ s.form.Stands settings cs := by
  induction cs using List.reverseRecOn with
  | nil => exact ⟨isNumbered_ofForm _ _, Form.stands_ofSettings settings⟩
  | append_singleton cs c ih =>
      obtain ⟨hnumbered, hstands⟩ := ih
      rw [commands_concat]
      cases c with
      | upload o =>
          obtain ⟨hnext, hvalues, -⟩ := command_upload hnumbered api o _
          exact ⟨hnext, (hstands.edits _).congr hvalues⟩
      | status o =>
          obtain ⟨hnext, hvalues, -⟩ := command_status hnumbered api o _
          exact ⟨hnext, (hstands.edits _).congr hvalues⟩

/-! ## The calls of commands

`base`, `aim` and `metadata` are what the commands set last, the command that calls included.
-/

section Calls

variable (api : Api σ) (settings : Settings) (files : FileTree) (cs : List Command) (w : σ)

theorem status_after_commands (o : StatusOptions)
    (hfound : o.target.missing? settings.presets = none) :
    let before := (fresh settings files).commands api cs w
    let all := cs ++ [.status o]
    let base := latest (·.target.url? settings.presets) settings.baseUrl all
    let aim := latest (Command.aim? settings.presets) {} all
    ∃ task, (before.1.command api (.status o) before.2).1.calls =
      before.1.calls ++ [(task, .status ⟨aim.urlPrefix base, o.contentId⟩)] := by
  intro before all base aim
  obtain ⟨hnumbered, hstands⟩ := stands_commands api settings files cs w
  have hafter := hstands.edits (.status o)
  rw [← hstands.presets] at hfound
  obtain ⟨-, -, hcalls, -⟩ := command_status hnumbered api o before.2
  obtain ⟨task, htask⟩ := hcalls hfound
  have hprefix : ((Command.status o).edits before.1.form).fields.contentStatusUrl =
      aim.urlPrefix base := by
    rw [hafter.aimedAt, hafter.baseUrl]
  refine ⟨task, ?_⟩
  rw [htask, Form.statusRequest, hprefix]

theorem upload_after_commands (o : UploadOptions) :
    let before := (fresh settings files).commands api cs w
    let all := cs ++ [.upload o]
    let base := latest (·.target.url? settings.presets) settings.baseUrl all
    let metadata := latest (Command.metadata? settings.presets) settings.metadata all
    ¬ before.1.Refuses o → ∃ task content, before.1.files.readBytes o.file = .ok content ∧
      (before.1.command api (.upload o) before.2).1.calls = before.1.calls ++ [(task, .upload
        ⟨base, ⟨⟨FileBlob.nameOf o.file, content⟩, o.minerId, o.apiKey⟩, metadata⟩)] := by
  intro before all base metadata hsends
  obtain ⟨hnumbered, hstands⟩ := stands_commands api settings files cs w
  have hafter := hstands.edits (.upload o)
  obtain ⟨-, -, hcalls, -⟩ := command_upload hnumbered api o before.2
  obtain ⟨task, content, hread, htask⟩ := hcalls hsends
  refine ⟨task, content, hread, ?_⟩
  rw [htask, Form.uploadRequest, hafter.baseUrl, hafter.metadata]

end Calls

/-- The call of a command is the one that its options and what was set last determine. So lookups
of content go to the base URL, and uploads carry the metadata of the settings, as long as no earlier
command aimed elsewhere or set metadata. -/
theorem calls_after_commands (api : Api σ) (settings : Settings) (files : FileTree)
    (cs : List Command) (w : σ) :
    let before := (fresh settings files).commands api cs w
    let after c := (before.1.command api c before.2).1.calls
    let base c := latest (·.target.url? settings.presets) settings.baseUrl (cs ++ [c])
    let aim c := latest (Command.aim? settings.presets) {} (cs ++ [c])
    let metadata c := latest (Command.metadata? settings.presets) settings.metadata (cs ++ [c])
    (∀ o : StatusOptions, (o.target.missing? settings.presets = none → ∃ task,
        after (.status o) = before.1.calls ++ [(task,
          .status ⟨(aim (.status o)).urlPrefix (base (.status o)), o.contentId⟩)]) ∧
      ∀ key, o.target.missing? settings.presets = some key →
        after (.status o) = before.1.calls) ∧
    (∀ o : UploadOptions, (¬ before.1.Refuses o → ∃ task content,
        before.1.files.readBytes o.file = .ok content ∧
        after (.upload o) = before.1.calls ++ [(task, .upload ⟨base (.upload o),
          ⟨⟨FileBlob.nameOf o.file, content⟩, o.minerId, o.apiKey⟩, metadata (.upload o)⟩)]) ∧
      (before.1.Refuses o → after (.upload o) = before.1.calls)) ∧
    ((∀ c ∈ cs, c.aim = {}) → ∀ o : StatusOptions, o.aim = {} →
      (aim (.status o)).urlPrefix (base (.status o)) =
        base (.status o) ++ "/open/stats/content/") ∧
    ((∀ c ∈ cs, c.metadata = none) → ∀ o : UploadOptions, o.metadata = none →
      metadata (.upload o) = settings.metadata) := by
  intro before after base aim metadata
  obtain ⟨hnumbered, hstands⟩ := stands_commands api settings files cs w
  refine ⟨fun o ↦ ⟨status_after_commands api settings files cs w o, ?_⟩,
    fun o ↦ ⟨upload_after_commands api settings files cs w o, ?_⟩, ?_, ?_⟩
  · rw [← hstands.presets]
    exact (command_status hnumbered api o before.2).2.2.2
  · exact (command_upload hnumbered api o before.2).2.2.2
  · intro hplain o ho
    have haim : aim (.status o) = {} := by
      apply latest_of_forall_eq
      intro c hc
      apply Command.aim?_of_aim_eq
      rcases List.mem_append.mp hc with hc | hc
      · exact hplain c hc
      · rw [List.mem_singleton.mp hc]
        exact ho
    rw [haim]
    rfl
  · intro hplain o ho
    apply latest_of_forall_eq
    intro c hc
    left
    apply Command.metadata?_of_metadata_eq
    rcases List.mem_append.mp hc with hc | hc
    · exact hplain c hc
    · rw [List.mem_singleton.mp hc]
      exact Command.metadata_upload_of_ok (by rw [ho]; rfl)

/-- A kind, and a URL, that one lookup asked for go on for the next; selecting a base URL ends
that. -/
theorem calls_after_by_cid_lookup :
    let api : Api Unit := fun _ w ↦ (⟨.ok .null, []⟩, w)
    let files : FileTree := { entries := [] }
    let byCid := Command.status { contentId := "a", kind := .dealByCid }
    let content : StatusOptions := { contentId := "b" }
    let selecting : StatusOptions := { contentId := "b", target := { url := some "http://h" } }
    let before := (fresh {} files).commands api [byCid] ()
    (∃ task, (before.1.command api (.status content) before.2).1.calls = before.1.calls ++
        [(task, .status ⟨"http://localhost:1414/open/stats/deal/by-cid/", "b"⟩)]) ∧
      ∃ task, (before.1.command api (.status selecting) before.2).1.calls = before.1.calls ++
        [(task, .status ⟨"http://h/open/stats/content/", "b"⟩)] := by
  intro api files byCid content selecting before
  obtain ⟨hcalls, -⟩ := calls_after_commands api {} files [byCid] ()
  exact ⟨(hcalls content).1 (by decide), (hcalls selecting).1 (by decide)⟩

/-- Neither do lookups of content always go to the base URL, nor do uploads without metadata of
their own always carry that of the settings: what an earlier command asked for stays. -/
theorem overrides_outlive_their_command :
    let api : Api Unit := fun _ w ↦ (⟨.ok .null, []⟩, w)
    (¬ ∀ (settings : Settings) (files : FileTree) (cs : List Command) (o : StatusOptions),
      o.kind = .content → o.contentUrl = none → o.target.missing? settings.presets = none →
        let before := (fresh settings files).commands api cs ()
        let base := latest (·.target.url? settings.presets) settings.baseUrl (cs ++ [.status o])
        ∃ task, (before.1.command api (.status o) before.2).1.calls = before.1.calls ++
          [(task, .status ⟨base ++ "/open/stats/content/", o.contentId⟩)]) ∧
    ¬ ∀ (settings : Settings) (files : FileTree) (cs : List Command) (o : UploadOptions),
      let before := (fresh settings files).commands api cs ()
      o.metadata = none → ¬ before.1.Refuses o → ∃ task r,
        (before.1.command api (.upload o) before.2).1.calls = before.1.calls ++
          [(task, .upload r)] ∧ r.metadata = settings.metadata := by
  intro api
  constructor
  · intro hbase
    let byCid := Command.status { contentId := "a", kind := .dealByCid }
    let content : StatusOptions := { contentId := "b" }
    obtain ⟨task, htask⟩ := hbase {} ⟨[], []⟩ [byCid] content rfl rfl (by decide)
    obtain ⟨task', htask'⟩ := status_after_commands api {} ⟨[], []⟩ [byCid] () content
      (by decide)
    have hsame := List.append_cancel_left (htask.symm.trans htask')
    simp only [List.cons.injEq, Prod.mk.injEq, Call.status.injEq, StatusRequest.mk.injEq] at hsame
    exact absurd hsame.1.2.1 (by decide)
  · intro hmetadata
    let files : FileTree := { entries := [([Utf8.encode "f"], .file [])] }
    let plain : UploadOptions := { file := Path.ofString "f", minerId := "m", apiKey := "k" }
    let impatient := Command.upload { plain with metadata := some "\x7b\"auto_retry\":false\x7d" }
    have hsends : ¬ ((fresh {} files).commands api [impatient] ()).1.Refuses plain := by
      have hread : ((fresh {} files).commands api [impatient] ()).1.files.readBytes plain.file =
          .ok [] := by decide +kernel
      rintro (⟨key, hkey⟩ | ⟨text, report, htext, -⟩ | ⟨fault, hfault⟩)
      · cases hkey
      · cases htext
      · exact absurd (hfault.symm.trans hread) nofun
    obtain ⟨task, r, htask, hstandard⟩ := hmetadata {} files [impatient] plain rfl hsends
    obtain ⟨task', content, -, htask'⟩ :=
      upload_after_commands api {} files [impatient] () plain hsends
    have hsame := List.append_cancel_left (htask.symm.trans htask')
    simp only [List.cons.injEq, Prod.mk.injEq, Call.upload.injEq] at hsame
    have hretry : r.metadata.autoRetry = false := by
      rw [hsame.1.2]
      rfl
    rw [hstandard] at hretry
    cases hretry

end Session

end DealForm
