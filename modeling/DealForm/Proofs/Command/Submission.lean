import DealForm.Proofs.Command.Effect
import DealForm.Proofs.File.Directory

/-!
# An upload on any session

Three things can keep an upload from being sent: the preset, the metadata and the file. None of them
touches what is shown. An upload that is sent succeeds whatever the reply is.
-/

namespace DealForm.Session

variable {σ : Type} {s : Session} {o : UploadOptions} {metadata : Option String}
  {parsed : Option Metadata} {report : Json.Report} {content : Bytes}

theorem mapM_parse_eq_error : metadata.mapM Metadata.parse = .error report ↔
    ∃ text, metadata = some text ∧ Metadata.parse text = .error report := by
  cases metadata with
  | none => simp [pure, Except.pure]
  | some text => cases h : Metadata.parse text <;> simp [h, Functor.map, Except.map]

theorem parse_of_mapM_eq_ok (h : metadata.mapM Metadata.parse = .ok parsed) :
    (metadata = none → parsed = none) ∧
      ∀ text, metadata = some text → ∃ value, parsed = some value ∧
        Metadata.parse text = .ok value := by
  cases metadata with
  | none =>
      cases h
      exact ⟨fun _ ↦ rfl, nofun⟩
  | some text =>
      refine ⟨nofun, ?_⟩
      rintro text' ⟨⟩
      cases hparse : Metadata.parse text with
      | error report => simp [hparse, Functor.map, Except.map] at h
      | ok value =>
          simp only [Option.mapM_some, hparse] at h
          cases h
          exact ⟨value, rfl, rfl⟩

/-- The preset of an upload is not there, its metadata has no meaning, or its file has no
content. -/
def Refuses (s : Session) (o : UploadOptions) : Prop :=
  (∃ key, o.target.missing? s.form.presets = some key) ∨
    (∃ text report, o.metadata = some text ∧ Metadata.parse text = .error report) ∨
      ∃ fault, s.files.readBytes o.file = .error fault

/-- An upload that is refused has made its edits and nothing else. -/
theorem uploadCommand_of_refuses (h : s.IsNumbered) (hrefuses : s.Refuses o) (api : Api σ)
    (w : σ) : ∃ error t, s.uploadCommand api o w = (.error error, t, w) ∧
      s.Leaves t ((Command.upload o).edits s.form) s.files [] := by
  cases hmissing : o.target.missing? s.form.presets with
  | some key =>
      obtain ⟨t, hrun, ht⟩ := uploadCommand_of_missing h hmissing api w
      rw [Command.edits_of_missing (c := .upload o) hmissing]
      exact ⟨_, t, hrun, ht⟩
  | none =>
      rw [Command.edits_of_found (c := .upload o) hmissing]
      cases hparse : o.metadata.mapM Metadata.parse with
      | error report =>
          obtain ⟨t, hrun, ht⟩ := uploadCommand_of_malformed h hmissing hparse api w
          rw [Command.metadata_upload_of_error hparse]
          exact ⟨_, t, hrun, ht⟩
      | ok parsed =>
          obtain ⟨key, hkey⟩ | ⟨text, report, htext, hreport⟩ | ⟨fault, hread⟩ := hrefuses
          · rw [hmissing] at hkey
            cases hkey
          · rw [mapM_parse_eq_error.mpr ⟨text, htext, hreport⟩] at hparse
            cases hparse
          · obtain ⟨t, hrun, ht⟩ := uploadCommand_of_unreadable h hmissing hparse hread api w
            rw [Command.metadata_upload_of_ok hparse]
            exact ⟨_, t, hrun, ht⟩

theorem exists_of_not_refuses (h : ¬ s.Refuses o) :
    o.target.missing? s.form.presets = none ∧
      (∃ parsed, o.metadata.mapM Metadata.parse = .ok parsed) ∧
      ∃ content, s.files.readBytes o.file = .ok content := by
  obtain ⟨hmissing, hmalformed, hunreadable⟩ : _ ∧ _ ∧ _ := by simpa only [Refuses, not_or] using h
  refine ⟨?_, ?_, ?_⟩
  · exact Option.eq_none_iff_forall_ne_some.mpr fun key hkey ↦ hmissing ⟨key, hkey⟩
  · cases hparse : o.metadata.mapM Metadata.parse with
    | error report =>
        obtain ⟨text, htext, hreport⟩ := mapM_parse_eq_error.mp hparse
        exact absurd ⟨text, report, htext, hreport⟩ hmalformed
    | ok parsed => exact ⟨parsed, rfl⟩
  · cases hread : s.files.readBytes o.file with
    | error fault => exact absurd ⟨fault, hread⟩ hunreadable
    | ok content => exact ⟨content, rfl⟩

theorem fileName_eq_of_readBytes {files : FileTree} {file : Path} (h : files.HasWorkingDirectory)
    (hread : files.readBytes file = .ok content) : ∃ name, file.names.getLast? = some name ∧
      FileBlob.nameOf file = (Utf8.decode name).toOption.getD "data" := by
  obtain ⟨name, hlast, hname⟩ := FileTree.fileName?_of_readBytes h hread
  refine ⟨name, hlast, ?_⟩
  rw [FileBlob.nameOf, hname]
  rfl

/-- An upload fails if and only if it is refused, and then nothing was sent or shown. Otherwise it
is sent once, as the options and the form say, and gives the text that the reply renders to. -/
theorem upload_command_outcome (api : Api σ) (form : Form) (files : FileTree) (steps : List Step)
    (o : UploadOptions) (w : σ) :
    let s := (ofForm form files).run steps
    let ran := s.uploadCommand api o w
    ((∃ error, ran.1 = .error error) ↔ s.Refuses o) ∧
    (∀ error, ran.1 = .error error →
      ran.2.1.calls = s.calls ∧ ran.2.2 = w ∧ ran.2.1.form.display = s.form.display ∧
        ran.2.1.form.fields.contentId = s.form.fields.contentId ∧ ran.2.1.files = s.files) ∧
    (∀ key, o.target.missing? s.form.presets = some key →
      ran.1 = .error (.notFound (.preset key)) ∧ ran.2.1.form.fields = s.form.fields) ∧
    (o.target.missing? s.form.presets = none → ∀ text report, o.metadata = some text →
      Metadata.parse text = .error report →
        ran.1 = .error (.invalidMetadata (.malformed report)) ∧
          ran.2.1.form.fields.metadata = s.form.fields.metadata) ∧
    (¬ s.Refuses o → ∃ task r,
      ran.2.1.calls = s.calls ++ [(task, .upload r)] ∧ ran.2.2 = (api (.upload r) w).2 ∧
        r.endpoint = (o.target.url? s.form.presets).getD s.form.fields.baseUrl ++
          "/api/v1/deal/end-to-end" ∧
        s.files.readBytes o.file = .ok r.input.file.bytes ∧
        (s.files.HasWorkingDirectory → ∃ name, o.file.names.getLast? = some name ∧
          r.input.file.fileName = (Utf8.decode name).toOption.getD "data") ∧
        r.input.minerId = o.minerId ∧ r.input.apiKey = o.apiKey ∧
        (o.metadata = none → r.metadata = s.form.fields.metadata) ∧
        (∀ text, o.metadata = some text → Metadata.parse text = .ok r.metadata) ∧
        ran.1 = .ok ran.2.1.form.display.messageArea ∧
        ran.2.1.form.display.messageArea = renderUpload (api (.upload r) w).1.reply) := by
  intro s ran
  have hnumbered : s.IsNumbered := (isNumbered_ofForm form files).run steps
  by_cases hrefuses : s.Refuses o
  · obtain ⟨error, t, hrun, ht⟩ := uploadCommand_of_refuses hnumbered hrefuses api w
    have hran : ran = (.error error, t, w) := hrun
    refine ⟨⟨fun _ ↦ hrefuses, fun _ ↦ ⟨error, by rw [hran]⟩⟩, ?_, ?_, ?_, absurd hrefuses⟩
    · intro _ _
      rw [hran]
      refine ⟨by rw [ht.calls, List.append_nil], rfl, ?_, ?_, ht.files⟩
      · rw [ht.form, Command.edits_display]
      · rw [ht.form, Command.edits_contentId]
    · intro key hmissing
      obtain ⟨t, hrun, ht⟩ := uploadCommand_of_missing hnumbered hmissing api w
      rw [show ran = _ from hrun, ht.form]
      exact ⟨rfl, rfl⟩
    · intro hfound text report htext hreport
      have hparse := mapM_parse_eq_error.mpr ⟨text, htext, hreport⟩
      obtain ⟨t, hrun, ht⟩ := uploadCommand_of_malformed hnumbered hfound hparse api w
      rw [show ran = _ from hrun, ht.form]
      exact ⟨rfl, rfl⟩
  · obtain ⟨hfound, ⟨parsed, hparse⟩, ⟨content, hread⟩⟩ := exists_of_not_refuses hrefuses
    obtain ⟨t, task, hrun, ht⟩ := uploadCommand_of_readable hnumbered hfound hparse hread api w
    obtain ⟨hkept, hset⟩ := parse_of_mapM_eq_ok hparse
    rw [show ran = _ from hrun, ht.form]
    refine ⟨⟨nofun, fun hrefused ↦ absurd hrefused hrefuses⟩, nofun, ?_, ?_, fun _ ↦ ?_⟩
    · intro key hmissing
      exact absurd (Or.inl ⟨key, hmissing⟩) hrefuses
    · intro _ text report htext hreport
      exact absurd (Or.inr (Or.inl ⟨text, report, htext, hreport⟩)) hrefuses
    · refine ⟨task, _, ht.calls, rfl, rfl, hread, fun hthere ↦ ?_, rfl, rfl, ?_, ?_, rfl, rfl⟩
      · exact fileName_eq_of_readBytes hthere hread
      · intro hnone
        rw [hkept hnone]
        rfl
      · intro text htext
        obtain ⟨value, rfl, hvalue⟩ := hset text htext
        exact hvalue

/-- A file that is not there and metadata that is no JSON keep an upload from being sent; a reply
that is an error does not make it fail. -/
theorem upload_command_refused_and_sent :
    let files : FileTree := { entries := [([Utf8.encode "a.txt"], .file [104, 105])] }
    let form := Form.ofBaseUrl "http://h"
    let api : Api Nat := fun _ n ↦ (⟨.error .uploadFailed, []⟩, n + 1)
    let o (file : String) (metadata : Option String) : UploadOptions :=
      { file := Path.ofString file, minerId := "m", apiKey := "k", metadata }
    (∃ error, ((ofForm form files).uploadCommand api (o "b.txt" none) 0).1 = .error error) ∧
      ((ofForm form files).uploadCommand api (o "b.txt" none) 0).2.1.form.display.messageArea = "" ∧
      ((ofForm form files).uploadCommand api (o "a.txt" (some "")) 0).1 =
        .error (.invalidMetadata (.malformed ⟨.endOfValue, some ⟨1, 0⟩⟩)) ∧
      ((ofForm form files).uploadCommand api (o "./a.txt" none) 0).1 =
        .ok "<div class=\"message error\">Upload failed</div>" ∧
      ∃ task r, ((ofForm form files).uploadCommand api (o "./a.txt" none) 0).2.1.calls =
          [(task, .upload r)] ∧ r.endpoint = "http://h/api/v1/deal/end-to-end" ∧
        r.input.file = ⟨"a.txt", [104, 105]⟩ := by
  intro files form api o
  have hthere : files.HasWorkingDirectory := by
    intro place hplace
    rw [List.prefix_nil.mp hplace]
    rfl
  have hread : files.readBytes (o "./a.txt" none).file = .ok [104, 105] := by decide
  have hmissing : (ofForm form files).Refuses (o "b.txt" none) :=
    Or.inr (Or.inr ⟨.notFound, by decide⟩)
  have hsent : ¬ (ofForm form files).Refuses (o "./a.txt" none) := by
    rintro (⟨key, hkey⟩ | ⟨text, report, htext, -⟩ | ⟨fault, hfault⟩)
    · cases hkey
    · cases htext
    · exact absurd (hfault.symm.trans hread) nofun
  obtain ⟨hrefused, hquiet, -, -, -⟩ := upload_command_outcome api form files [] (o "b.txt" none) 0
  obtain ⟨-, -, -, hmalformed, -⟩ :=
    upload_command_outcome api form files [] (o "a.txt" (some "")) 0
  obtain ⟨-, -, -, -, hsends⟩ := upload_command_outcome api form files [] (o "./a.txt" none) 0
  obtain ⟨error, herror⟩ := hrefused.mpr hmissing
  obtain ⟨-, -, hdisplay, -, -⟩ := hquiet error herror
  obtain ⟨task, r, hcalls, -, hendpoint, hbytes, hnamed, -, -, -, -, hresult, hshown⟩ :=
    hsends hsent
  have hrendered : renderUpload (.error .uploadFailed) =
      "<div class=\"message error\">Upload failed</div>" := by decide
  refine ⟨⟨error, herror⟩, congrArg Display.messageArea hdisplay, ?_, ?_, task, r, hcalls,
    hendpoint, ?_⟩
  · exact (hmalformed rfl "" ⟨.endOfValue, some ⟨1, 0⟩⟩ rfl rfl).1
  · exact hresult.trans (congrArg Except.ok (hshown.trans hrendered))
  · obtain ⟨name, hlast, hname⟩ := hnamed hthere
    have hlast' : (o "./a.txt" none).file.names.getLast? = some (Utf8.encode "a.txt") := by decide
    rw [hlast'] at hlast
    cases hlast
    rw [Utf8.decode_encode] at hname
    have hcontent : Except.ok r.input.file.bytes = .ok [104, 105] := hbytes.symm.trans hread
    have hfileName : r.input.file.fileName = "a.txt" := hname
    rw [← hfileName, ← Except.ok.inj hcontent]

end DealForm.Session
