import DealForm.Proofs.Command.Effect
import DealForm.Proofs.File.Directory
import DealForm.Proofs.Form.DownloadName

/-!
# A lookup on a fresh session

The URL of a lookup comes from the options and the settings alone, and so does the file in which
the response is saved.
-/

namespace DealForm.Session

variable {σ : Type} {files : FileTree} {directory : Path} {contentId text : String}
  {fault : FileFault}

theorem isNumbered_fresh (settings : Settings) (files : FileTree) :
    (fresh settings files).IsNumbered := isNumbered_ofForm _ _

theorem statusRequest_ofSettings (settings : Settings) (o : StatusOptions) :
    let base := (o.target.url? settings.presets).getD settings.baseUrl
    (((Form.ofSettings settings).select (o.target.url? settings.presets)).aim
      o.aim).statusRequest o.contentId =
        ⟨o.contentUrl.getD (base ++ o.kind.path), o.contentId⟩ := by
  intro base
  have haimed := ((Form.aimedAt_ofSettings settings).select (o.target.url? settings.presets)).aim
    o.aim
  -- Settings alone aim at the standard kind, which is also what options without an aim ask for.
  have hown : (if o.aim = {} then (if (o.target.url? settings.presets).isSome then {} else {})
      else o.aim) = o.aim := by
    by_cases hstandard : o.aim = {}
    · rw [if_pos hstandard, ite_self, hstandard]
    · rw [if_neg hstandard]
  rw [hown] at haimed
  exact congrArg (fun urlPrefix ↦ StatusRequest.mk urlPrefix o.contentId) haimed

theorem saved_of_error (h : (files.writeText (directory.join
    (Path.ofString (downloadName (some contentId)))) text).2 = .error fault) :
    (saved files (some directory) contentId text).2 = .error (.io fault) := by
  simp only [saved, h]
  rfl

theorem saved_of_ok (h : (files.writeText (directory.join
    (Path.ofString (downloadName (some contentId)))) text).2 = .ok ()) :
    let name := downloadName (some contentId)
    let file := directory.join (Path.ofString name)
    let written := saved files (some directory) contentId text
    written.2 = .ok (some file) ∧
      written.1.HoldsIn directory (Utf8.encode name) (Utf8.encode text) ∧
      written.1.readText file = .ok text := by
  intro name file written
  have hwrite : files.writeText file text = (written.1, .ok ()) := Prod.ext rfl h
  refine ⟨?_, ?_, (FileTree.readText_writeText hwrite).2⟩
  · simp only [written, saved, h]
    rfl
  · exact FileTree.holdsIn_writeText (encode_downloadName_ne_nil _)
      (slash_notMem_encode_downloadName _) hwrite

/-- A lookup on a fresh session fails without a call if its preset is missing. Otherwise it makes
one call, to a URL that the options and the settings determine, shows what the reply renders to, and
saves that if it was told where. -/
theorem status_command_on_fresh_session (api : Api σ) (settings : Settings) (files : FileTree)
    (o : StatusOptions) (w : σ) :
    let ran := (fresh settings files).statusCommand api o w
    let base := (o.target.url? settings.presets).getD settings.baseUrl
    let urlPrefix := o.contentUrl.getD (base ++ o.kind.path)
    let call := Call.status ⟨urlPrefix, o.contentId⟩
    let rendered := renderStatus (api call w).1.reply
    let name := downloadName (some o.contentId)
    (∀ key, o.target.missing? settings.presets = some key →
      ran.1 = .error (.notFound (.preset key)) ∧ ran.2.1.calls = [] ∧ ran.2.2 = w ∧
        ran.2.1.form = .ofSettings settings ∧ ran.2.1.files = files) ∧
    (o.target.missing? settings.presets = none →
      (∃ task, ran.2.1.calls = [(task, call)]) ∧ call.url = urlPrefix ++ o.contentId ∧
        ran.2.2 = (api call w).2 ∧ ran.2.1.form.display.responseArea = rendered ∧
        (o.saveDirectory = none → ran.1 = .ok ⟨rendered, none⟩ ∧ ran.2.1.files = files) ∧
        ∀ directory, o.saveDirectory = some directory →
          let file := directory.join (Path.ofString name)
          (∀ fault, (files.writeText file rendered).2 = .error fault →
            ran.1 = .error (.io fault)) ∧
          ((files.writeText file rendered).2 = .ok () →
            ran.1 = .ok ⟨rendered, some file⟩ ∧
              ran.2.1.files.HoldsIn directory (Utf8.encode name) (Utf8.encode rendered) ∧
              ran.2.1.files.readText file = .ok rendered)) := by
  intro ran base urlPrefix call rendered name
  have hnumbered := isNumbered_fresh settings files
  constructor
  · intro key hmissing
    obtain ⟨t, hran, ht⟩ := statusCommand_of_missing hnumbered hmissing api w
    rw [show ran = _ from hran]
    exact ⟨rfl, ht.calls, rfl, ht.form, ht.files⟩
  · intro hfound
    obtain ⟨t, task, hran, ht⟩ := statusCommand_of_found hnumbered hfound api w
    let s := fresh settings files
    have hrequest : ((s.form.select (o.target.url? s.form.presets)).aim o.aim).statusRequest
        o.contentId = ⟨urlPrefix, o.contentId⟩ := statusRequest_ofSettings settings o
    rw [hrequest] at hran ht
    rw [show ran = _ from hran]
    refine ⟨⟨task, ht.calls⟩, rfl, rfl, ?_, ?_, ?_⟩
    · rw [ht.form]
      rfl
    · intro hsave
      rw [hsave] at ht ⊢
      exact ⟨rfl, ht.files⟩
    · intro directory hsave file
      rw [hsave] at ht ⊢
      constructor
      · intro fault hfault
        have hsaved := saved_of_error hfault
        exact congrArg (Except.map (StatusOutcome.mk rendered)) hsaved
      · intro hwrite
        obtain ⟨hsaved, hholds, hread⟩ := saved_of_ok hwrite
        rw [ht.files]
        exact ⟨congrArg (Except.map (StatusOutcome.mk rendered)) hsaved, hholds, hread⟩

/-- The kind, the URL and the directory all come from the options; a preset that is missing ends the
lookup. -/
theorem status_command_by_cid_saved :
    let api : Api Nat := fun _ n ↦ (⟨.ok .null, []⟩, n + 1)
    let files : FileTree := { entries := [] }
    let o : StatusOptions :=
      { target := { url := some "http://h" }, contentId := "a/b", kind := .dealByCid,
        saveDirectory := some (Path.ofString "out") }
    let unknown : StatusOptions := { target := { preset := some "x" }, contentId := "a" }
    let file := Path.ofString "out/status-check-fora_b.txt"
    (∃ task, ((fresh {} files).statusCommand api o 0).2.1.calls =
        [(task, .status ⟨"http://h/open/stats/deal/by-cid/", "a/b"⟩)]) ∧
      ((fresh {} files).statusCommand api o 0).2.2 = 1 ∧
      ((fresh {} files).statusCommand api o 0).1 = .ok ⟨"null", some file⟩ ∧
      ((fresh {} files).statusCommand api o 0).2.1.files.readText file = .ok "null" ∧
      ((fresh {} files).statusCommand api unknown 0).1 = .error (.notFound (.preset "x")) := by
  intro api files o unknown file
  obtain ⟨hcalls, -, hworld, -, -, hsave⟩ :=
    (status_command_on_fresh_session api {} files o 0).2 (by decide)
  obtain ⟨hresult, -, hread⟩ := (hsave (Path.ofString "out") rfl).2 (by decide +kernel)
  obtain ⟨hunknown, -⟩ := (status_command_on_fresh_session api {} files unknown 0).1 "x" (by decide)
  have hfile : (Path.ofString "out").join (Path.ofString (downloadName (some "a/b"))) = file := by
    decide
  rw [hfile] at hresult hread
  exact ⟨hcalls, hworld, hresult, hread, hunknown⟩

end DealForm.Session
