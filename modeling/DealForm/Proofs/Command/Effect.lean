import DealForm.Command
import DealForm.Proofs.Session.Alone

/-!
# What a command does

A command makes its edits one after the other and then at most one call. Here the form that each of
its stages leaves is said in terms of the options alone, for every way in which the command can
end.
-/

namespace DealForm

/-! ## Targets -/

namespace TargetOptions

variable {presets : List Preset} {target : TargetOptions} {key : String}

/-- The URL that is asked for, by itself or by a preset that there is. -/
def url? (presets : List Preset) (target : TargetOptions) : Option String :=
  target.url.or ((target.preset.bind (Preset.find? presets)).map (·.url))

/-- The preset that is asked for but that there is not. -/
def missing? (presets : List Preset) (target : TargetOptions) : Option String :=
  if target.url.isSome then none
  else target.preset.filter fun key ↦ (Preset.find? presets key).isNone

theorem missing?_eq_some : target.missing? presets = some key ↔
    target.url = none ∧ target.preset = some key ∧ Preset.find? presets key = none := by
  cases hurl : target.url with
  | some url => simp [missing?, hurl]
  | none => simp [missing?, hurl, Option.filter_eq_some_iff]

theorem url?_of_missing? (h : target.missing? presets = some key) : target.url? presets = none := by
  obtain ⟨hurl, hpreset, hfind⟩ := missing?_eq_some.mp h
  simp [url?, hurl, hpreset, hfind]

end TargetOptions

/-! ## Forms -/

/-- What lookups go to: a kind, or a URL whatever the kind. -/
structure Aim where
  kind : StatusKind := .standard
  contentUrl : Option String := none
  deriving DecidableEq, Repr

def Aim.urlPrefix (a : Aim) (baseUrl : String) : String :=
  a.contentUrl.getD (a.kind.urlPrefix baseUrl)

def StatusOptions.aim (o : StatusOptions) : Aim :=
  ⟨o.kind, o.contentUrl⟩

namespace Form

variable {f : Form} {a : Aim}

def select (f : Form) (url : Option String) : Form :=
  { f with fields :=
    { f.fields with
      baseUrl := url.getD f.fields.baseUrl
      contentStatusUrl := (url.map DealForm.contentStatusUrl).getD f.fields.contentStatusUrl } }

def attach (f : Form) (metadata : Option Metadata) : Form :=
  { f with fields := { f.fields with metadata := metadata.getD f.fields.metadata } }

/-- The form after it was aimed. The standard kind alone leaves the URL as it stands. -/
def aim (f : Form) (a : Aim) : Form :=
  let standing := if a.kind = .standard then f.fields.contentStatusUrl
    else a.kind.urlPrefix f.fields.baseUrl
  { f with fields := { f.fields with contentStatusUrl := a.contentUrl.getD standing } }

/-- Lookups go to this aim, with the base URL of the form. -/
def AimedAt (f : Form) (a : Aim) : Prop :=
  f.fields.contentStatusUrl = a.urlPrefix f.fields.baseUrl

theorem aimedAt_ofSettings (settings : Settings) : (ofSettings settings).AimedAt {} := rfl

theorem AimedAt.select (h : f.AimedAt a) (url : Option String) :
    (f.select url).AimedAt (if url.isSome then {} else a) := by
  cases url with
  | none => exact h
  | some url => rfl

theorem AimedAt.aim (h : f.AimedAt a) (b : Aim) :
    (f.aim b).AimedAt (if b = {} then a else b) := by
  obtain ⟨kind, contentUrl⟩ := b
  cases contentUrl with
  | some url =>
      rw [if_neg (by simp)]
      rfl
  | none =>
      by_cases hkind : kind = .standard
      · rw [hkind, if_pos rfl]
        exact h
      · have hne : (⟨kind, none⟩ : Aim) ≠ {} := fun heq ↦ hkind (congrArg Aim.kind heq)
        rw [if_neg hne]
        simp only [AimedAt, Form.aim, hkind, ↓reduceIte]
        rfl

end Form

/-! ## Commands -/

inductive Command where
  | upload (options : UploadOptions)
  | status (options : StatusOptions)

namespace Command

variable {f : Form} {c : Command} {o : UploadOptions} {key : String} {parsed : Option Metadata}
  {report : Json.Report}

def target : Command → TargetOptions
  | upload o => o.target
  | status o => o.target

def aim : Command → Aim
  | upload _ => {}
  | status o => o.aim

def metadata : Command → Option Metadata
  | upload o => (o.metadata.mapM Metadata.parse).toOption.join
  | status _ => none

def edits (c : Command) (f : Form) : Form :=
  if (c.target.missing? f.presets).isSome then f
  else ((f.select (c.target.url? f.presets)).attach c.metadata).aim c.aim

theorem edits_of_missing (h : c.target.missing? f.presets = some key) : c.edits f = f := by
  rw [edits, h, Option.isSome_some, if_pos rfl]

theorem edits_of_found (h : c.target.missing? f.presets = none) :
    c.edits f = ((f.select (c.target.url? f.presets)).attach c.metadata).aim c.aim := by
  rw [edits, h, Option.isSome_none, if_neg Bool.false_ne_true]

theorem edits_display (c : Command) (f : Form) : (c.edits f).display = f.display := by
  unfold edits
  split <;> rfl

theorem edits_contentId (c : Command) (f : Form) :
    (c.edits f).fields.contentId = f.fields.contentId := by
  unfold edits
  split <;> rfl

theorem metadata_upload_of_ok (h : o.metadata.mapM Metadata.parse = .ok parsed) :
    (upload o).metadata = parsed := by
  simp only [metadata, h]
  rfl

theorem metadata_upload_of_error (h : o.metadata.mapM Metadata.parse = .error report) :
    (upload o).metadata = none := by
  simp only [metadata, h]
  rfl

end Command

namespace Session

variable {σ : Type} {s : Session} {target : TargetOptions} {key : String}
  {metadata : Option String} {parsed : Option Metadata} {report : Json.Report}

/-! ## Stages -/

theorem choose_of_missing (h : s.IsNumbered)
    (hmissing : target.missing? s.form.presets = some key) :
    ∃ t, s.choose target = (.error (.notFound (.preset key)), t) ∧
      s.Leaves t s.form s.files [] := by
  obtain ⟨hurl, hpreset, hfind⟩ := TargetOptions.missing?_eq_some.mp hmissing
  have hedit : s.form.presetEdit key = .error (.notFound (.preset key)) := by
    rw [Form.presetEdit, hfind]
  have hselect := leaves_selectPreset h key
  rw [hedit] at hselect
  refine ⟨(s.selectPreset key).2, ?_, hselect.2⟩
  simp only [choose, hurl, hpreset]
  exact Prod.ext hselect.1 rfl

theorem choose_of_found (h : s.IsNumbered) (hfound : target.missing? s.form.presets = none) :
    ∃ t, s.choose target = (.ok (), t) ∧
      s.Leaves t (s.form.select (target.url? s.form.presets)) s.files [] := by
  cases hurl : target.url with
  | some url =>
      refine ⟨s.edit (.selectBaseUrl url), by simp only [choose, hurl], ?_⟩
      have hurl? : target.url? s.form.presets = some url := by simp [TargetOptions.url?, hurl]
      rw [hurl?]
      exact leaves_edit h (.selectBaseUrl url)
  | none =>
      cases hpreset : target.preset with
      | none =>
          refine ⟨s, by simp only [choose, hurl, hpreset], ?_⟩
          have hurl? : target.url? s.form.presets = none := by
            simp [TargetOptions.url?, hurl, hpreset]
          rw [hurl?]
          exact .refl h
      | some key =>
          cases hfind : Preset.find? s.form.presets key with
          | none =>
              have hmissing := TargetOptions.missing?_eq_some.mpr ⟨hurl, hpreset, hfind⟩
              rw [hfound] at hmissing
              cases hmissing
          | some preset =>
              have hedit : s.form.presetEdit key = .ok (.selectBaseUrl preset.url) := by
                rw [Form.presetEdit, hfind]
              have hselect := leaves_selectPreset h key
              rw [hedit] at hselect
              have hurl? : target.url? s.form.presets = some preset.url := by
                simp [TargetOptions.url?, hurl, hpreset, hfind]
              refine ⟨(s.selectPreset key).2, ?_, ?_⟩
              · simp only [choose, hurl, hpreset]
                exact Prod.ext hselect.1 rfl
              · rw [hurl?]
                exact hselect.2

theorem override_eq (s : Session) (metadata : Option String) :
    s.override metadata =
      match metadata.mapM Metadata.parse with
      | .error report => (.error (.invalidMetadata (.malformed report)), s)
      | .ok none => (.ok (), s)
      | .ok (some parsed) => (.ok (), s.edit (.setMetadata parsed)) := by
  cases metadata with
  | none => rfl
  | some text =>
      simp only [override, Option.mapM_some]
      cases Metadata.parse text <;> rfl

theorem override_of_error (hparse : metadata.mapM Metadata.parse = .error report) :
    s.override metadata = (.error (.invalidMetadata (.malformed report)), s) := by
  rw [override_eq, hparse]

theorem override_of_ok (h : s.IsNumbered) (hparse : metadata.mapM Metadata.parse = .ok parsed) :
    ∃ t, s.override metadata = (.ok (), t) ∧ s.Leaves t (s.form.attach parsed) s.files [] := by
  rw [override_eq, hparse]
  cases parsed with
  | none => exact ⟨s, rfl, .refl h⟩
  | some metadata => exact ⟨_, rfl, leaves_edit h (.setMetadata metadata)⟩

theorem leaves_aim (h : s.IsNumbered) (kind : StatusKind) (contentUrl : Option String) :
    s.Leaves ((s.aimAt kind).aimAtUrl contentUrl) (s.form.aim ⟨kind, contentUrl⟩) s.files [] := by
  have hkind : s.Leaves (s.aimAt kind) (s.form.aim ⟨kind, none⟩) s.files [] := by
    unfold aimAt Form.aim
    split
    · exact .refl h
    · exact leaves_edit h _
  cases contentUrl with
  | none => exact hkind
  | some url =>
      have hurl := hkind.trans (leaves_edit hkind.isNumbered (.setContentStatusUrl url))
      rw [hkind.form, hkind.files] at hurl
      exact hurl

/-! ## Uploads -/

section Upload

variable {o : UploadOptions} {fault : FileFault} {content : Bytes}

theorem uploadCommand_of_missing (h : s.IsNumbered)
    (hmissing : o.target.missing? s.form.presets = some key) (api : Api σ) (w : σ) :
    ∃ t, s.uploadCommand api o w = (.error (.notFound (.preset key)), t, w) ∧
      s.Leaves t s.form s.files [] := by
  obtain ⟨t, hchoose, ht⟩ := choose_of_missing h hmissing
  refine ⟨t, ?_, ht⟩
  simp only [uploadCommand, hchoose]

theorem uploadCommand_of_malformed (h : s.IsNumbered)
    (hfound : o.target.missing? s.form.presets = none)
    (hparse : o.metadata.mapM Metadata.parse = .error report) (api : Api σ) (w : σ) :
    ∃ t, s.uploadCommand api o w = (.error (.invalidMetadata (.malformed report)), t, w) ∧
      s.Leaves t (s.form.select (o.target.url? s.form.presets)) s.files [] := by
  obtain ⟨t, hchoose, ht⟩ := choose_of_found h hfound
  refine ⟨t, ?_, ht⟩
  simp only [uploadCommand, hchoose, override_of_error hparse]

theorem override_of_choose (h : s.IsNumbered) (hfound : o.target.missing? s.form.presets = none)
    (hparse : o.metadata.mapM Metadata.parse = .ok parsed) :
    ∃ t u, s.choose o.target = (.ok (), t) ∧ t.override o.metadata = (.ok (), u) ∧
      s.Leaves u ((s.form.select (o.target.url? s.form.presets)).attach parsed) s.files [] := by
  obtain ⟨t, hchoose, ht⟩ := choose_of_found h hfound
  obtain ⟨u, hoverride, hu⟩ := override_of_ok ht.isNumbered hparse
  have hboth := ht.trans hu
  rw [ht.form, ht.files] at hboth
  exact ⟨t, u, hchoose, hoverride, hboth⟩

theorem uploadCommand_of_unreadable (h : s.IsNumbered)
    (hfound : o.target.missing? s.form.presets = none)
    (hparse : o.metadata.mapM Metadata.parse = .ok parsed)
    (hread : s.files.readBytes o.file = .error fault) (api : Api σ) (w : σ) :
    ∃ t, s.uploadCommand api o w = (.error (.io fault), t, w) ∧
      s.Leaves t ((s.form.select (o.target.url? s.form.presets)).attach parsed) s.files [] := by
  obtain ⟨t, u, hchoose, hoverride, hu⟩ := override_of_choose h hfound hparse
  have hfile : FileBlob.read u.files o.file = .error fault := by
    rw [FileBlob.read, hu.files, hread]
    rfl
  refine ⟨u, ?_, hu⟩
  simp only [uploadCommand, hchoose, hoverride, hfile]

theorem uploadCommand_of_readable (h : s.IsNumbered)
    (hfound : o.target.missing? s.form.presets = none)
    (hparse : o.metadata.mapM Metadata.parse = .ok parsed)
    (hread : s.files.readBytes o.file = .ok content) (api : Api σ) (w : σ) :
    let form := (s.form.select (o.target.url? s.form.presets)).attach parsed
    let file : FileBlob := ⟨FileBlob.nameOf o.file, content⟩
    let c := Call.upload (form.uploadRequest ⟨file, o.minerId, o.apiKey⟩)
    let text := renderUpload (api c w).1.reply
    ∃ t task, s.uploadCommand api o w = (.ok text, t, (api c w).2) ∧
      s.Leaves t (form.showMessage text) s.files [(task, c)] := by
  intro form file c text
  obtain ⟨t, u, hchoose, hoverride, hu⟩ := override_of_choose h hfound hparse
  have hfile : FileBlob.read u.files o.file = .ok file := by
    rw [FileBlob.read, hu.files, hread]
    rfl
  obtain ⟨v, hsubmit, hv⟩ := leaves_submitUpload hu.isNumbered api ⟨file, o.minerId, o.apiKey⟩ w
  have hall := hu.trans hv
  rw [hu.form] at hsubmit hall
  rw [hu.files] at hall
  refine ⟨v, u.next, ?_, hall⟩
  simp only [uploadCommand, hchoose, hoverride, hfile, hsubmit]
  rfl

end Upload

/-! ## Lookups -/

section Status

variable {o : StatusOptions}

theorem statusCommand_of_missing (h : s.IsNumbered)
    (hmissing : o.target.missing? s.form.presets = some key) (api : Api σ) (w : σ) :
    ∃ t, s.statusCommand api o w = (.error (.notFound (.preset key)), t, w) ∧
      s.Leaves t s.form s.files [] := by
  obtain ⟨t, hchoose, ht⟩ := choose_of_missing h hmissing
  refine ⟨t, ?_, ht⟩
  simp only [statusCommand, hchoose]

theorem requestStatus_of_choose (h : s.IsNumbered)
    (hfound : o.target.missing? s.form.presets = none) (api : Api σ) (w : σ) :
    let form := (s.form.select (o.target.url? s.form.presets)).aim o.aim
    let c := Call.status (form.statusRequest o.contentId)
    let text := renderStatus (api c w).1.reply
    ∃ t u task, s.choose o.target = (.ok (), t) ∧
      (((t.aimAt o.kind).aimAtUrl o.contentUrl).note
        [.lookingUp o.kind o.contentId]).requestStatus api o.contentId w = (text, u, (api c w).2) ∧
      s.Leaves u ((form.noteContentId o.contentId).showResponse o.contentId text) s.files
        [(task, c)] := by
  intro form c text
  obtain ⟨t, hchoose, ht⟩ := choose_of_found h hfound
  -- The base URL is chosen first, so the kind is appended to the new one.
  have haim := ht.trans (leaves_aim ht.isNumbered o.kind o.contentUrl)
  rw [ht.form, ht.files] at haim
  have hlooking := haim.note [.lookingUp o.kind o.contentId]
  obtain ⟨u, hrequest, hu⟩ := leaves_requestStatus hlooking.isNumbered api o.contentId w
  have hall := hlooking.trans hu
  rw [hlooking.form] at hrequest hall
  rw [hlooking.files] at hall
  exact ⟨t, u, _, hchoose, hrequest, hall⟩

/-- The files after a text was saved, if it was to be saved, and the file that it was saved in. -/
def saved (files : FileTree) (directory : Option Path) (contentId text : String) :
    FileTree × Except Error (Option Path) :=
  match directory with
  | none => (files, .ok none)
  | some directory =>
    let file := directory.join (Path.ofString (downloadName (some contentId)))
    let written := files.writeText file text
    (written.1, (written.2.map fun _ ↦ some file).mapError .io)

theorem statusCommand_of_found (h : s.IsNumbered)
    (hfound : o.target.missing? s.form.presets = none) (api : Api σ) (w : σ) :
    let form := (s.form.select (o.target.url? s.form.presets)).aim o.aim
    let c := Call.status (form.statusRequest o.contentId)
    let text := renderStatus (api c w).1.reply
    let written := saved s.files o.saveDirectory o.contentId text
    ∃ t task, s.statusCommand api o w = (written.2.map (StatusOutcome.mk text), t, (api c w).2) ∧
      s.Leaves t ((form.noteContentId o.contentId).showResponse o.contentId text) written.1
        [(task, c)] := by
  intro form c text written
  obtain ⟨t, u, task, hchoose, hrequest, hu⟩ := requestStatus_of_choose h hfound api w
  cases hsave : o.saveDirectory with
  | none =>
      have hwritten : written = (s.files, .ok none) := by simp only [written, saved, hsave]
      rw [hwritten]
      refine ⟨u, task, ?_, hu⟩
      simp only [statusCommand, hchoose, hrequest, hsave]
      rfl
  | some directory =>
      let file := directory.join (Path.ofString (downloadName (some o.contentId)))
      have hwritten : written = ((s.files.writeText file text).1,
          ((s.files.writeText file text).2.map fun _ ↦ some file).mapError .io) := by
        simp only [written, saved, hsave, file]
      obtain ⟨hresult, hv⟩ := leaves_download hu.isNumbered directory
      rw [hu.form, hu.files] at hresult hv
      have hall := hu.trans hv
      rw [hwritten]
      refine ⟨(u.download directory).2, task, ?_, hall⟩
      have hdownload : u.download directory =
          (((s.files.writeText file text).2.map fun _ ↦ file).mapError .io,
            (u.download directory).2) := Prod.ext hresult rfl
      simp only [statusCommand, hchoose, hrequest, hsave]
      rw [hdownload]
      cases (s.files.writeText file text).2 <;> rfl

end Status

end Session

end DealForm
