import DealForm.Proofs.CommandLine.Arguments
import DealForm.Proofs.Session.Confinement
import DealForm.Proofs.Settings.Run

/-!
# Where a lookup saves its response

Two options, a setting and three variables can name the directory that a lookup saves its response
in. Only the options ask for a response to be saved; the first of the sources that names a directory
counts. What is saved is what is printed.
-/

namespace DealForm

open Arguments

/-! ## The sources of the directory -/

/-- The directory for saved responses below the one that the program keeps its files in. -/
inductive HasDownloads (env : Environment) : Path → Prop where
  | own {text : String} (h : env "DELTA_UPLOADER_HOME" = some text) :
      HasDownloads env ((Path.ofString text).join (Path.ofString "downloads"))
  | home {text : String} (hown : env "DELTA_UPLOADER_HOME" = none) (h : env "HOME" = some text) :
      HasDownloads env
        (((Path.ofString text).join (Path.ofString ".delta-uploader")).join
          (Path.ofString "downloads"))
  | profile {text : String} (hown : env "DELTA_UPLOADER_HOME" = none) (hhome : env "HOME" = none)
      (h : env "USERPROFILE" = some text) :
      HasDownloads env
        (((Path.ofString text).join (Path.ofString ".delta-uploader")).join
          (Path.ofString "downloads"))
  | here (hown : env "DELTA_UPLOADER_HOME" = none) (hhome : env "HOME" = none)
      (hprofile : env "USERPROFILE" = none) :
      HasDownloads env
        (((Path.ofString ".").join (Path.ofString ".delta-uploader")).join
          (Path.ofString "downloads"))

/-- Where a lookup with these words saves its response, if it does. -/
inductive SavesIn (env : Environment) (settings : Settings) (words : List String) :
    Option Path → Prop where
  | given {text : String} (h : Gives "save-dir" text words) :
      SavesIn env settings words (some (Path.ofString text))
  | setting {text : String} (hgiven : ∀ text, ¬ Gives "save-dir" text words)
      (hsave : GivesFlag "save" words) (h : settings.downloadDir = some text) :
      SavesIn env settings words (some (Path.ofString text))
  | downloads {directory : Path} (hgiven : ∀ text, ¬ Gives "save-dir" text words)
      (hsave : GivesFlag "save" words) (hsetting : settings.downloadDir = none)
      (h : HasDownloads env directory) : SavesIn env settings words (some directory)
  | nowhere (hgiven : ∀ text, ¬ Gives "save-dir" text words) (hsave : ¬ GivesFlag "save" words) :
      SavesIn env settings words none

variable {env : Environment} {settings : Settings} {words rest : List String} {i : Invocation}
  {o : StatusOptions} {save : Bool} {name : String} {a : Arguments} {directory : Path}

theorem hasDownloads_iff :
    HasDownloads env directory ↔ (Layout.ofEnvironment env).downloadsDirectory = directory := by
  unfold Layout.ofEnvironment Layout.downloadsDirectory
  constructor
  · rintro (⟨h⟩ | ⟨hown, h⟩ | ⟨hown, hhome, h⟩ | ⟨hown, hhome, hprofile⟩) <;> simp [*]
  · rintro rfl
    cases hown : env "DELTA_UPLOADER_HOME" with
    | some text => exact .own hown
    | none =>
        cases hhome : env "HOME" with
        | some text => exact .home hown hhome
        | none =>
            cases hprofile : env "USERPROFILE" with
            | some text => exact .profile hown hhome hprofile
            | none => exact .here hown hhome hprofile

namespace Invocation

theorem exists_of_uploadOf {subcommand : Subcommand} (h : uploadOf env a = .ok subcommand) :
    ∃ options, subcommand = .upload options := by
  obtain ⟨target, -, h⟩ := bind_eq_ok.mp h
  obtain ⟨file, -, h⟩ := bind_eq_ok.mp h
  obtain ⟨miner, -, h⟩ := bind_eq_ok.mp h
  obtain ⟨key, -, h⟩ := bind_eq_ok.mp h
  cases h
  exact ⟨_, rfl⟩

theorem scan_of_subcommandOf (h : subcommandOf env name rest = .ok (a, .status o save)) :
    Arguments.scan statusGrammar {} rest = .ok a ∧ statusOf a = .ok (.status o save) := by
  unfold subcommandOf at h
  split_ifs at h with hupload hstatus
  · obtain ⟨a', hscan, h⟩ := bind_eq_ok.mp h
    obtain ⟨subcommand, hsubcommand, h⟩ := bind_eq_ok.mp h
    obtain ⟨options, rfl⟩ := exists_of_uploadOf hsubcommand
    cases h
  · obtain ⟨a', hscan, h⟩ := bind_eq_ok.mp h
    obtain ⟨subcommand, hsubcommand, h⟩ := bind_eq_ok.mp h
    cases h
    exact ⟨hscan, hsubcommand⟩
  all_goals
    obtain ⟨a', -, h⟩ := bind_eq_ok.mp h
    cases h

theorem flags_of_statusOf (h : statusOf a = .ok (.status o save)) :
    o.saveDirectory = (a.value? "save-dir").map Path.ofString ∧ save = a.hasFlag "save" := by
  obtain ⟨target, -, h⟩ := bind_eq_ok.mp h
  obtain ⟨contentId, -, h⟩ := bind_eq_ok.mp h
  cases h
  exact ⟨rfl, rfl⟩

/-- The flags of a lookup are those that stand on its command line. -/
theorem flags_of_parse (hparse : Invocation.parse env words = .ok i)
    (hstatus : i.subcommand = .status o save) :
    ∃ given : Option String, o.saveDirectory = given.map Path.ofString ∧
      (∀ text, given = some text ↔ Gives "save-dir" text words) ∧
      (save = true ↔ GivesFlag "save" words) := by
  obtain ⟨outer, houter, h⟩ := bind_eq_ok.mp hparse
  obtain ⟨⟨name, rest⟩, hrequired, h⟩ := bind_eq_ok.mp h
  obtain ⟨⟨inner, subcommand⟩, hsubcommand, h⟩ := bind_eq_ok.mp h
  cases h
  dsimp only at hstatus
  subst hstatus
  obtain ⟨hinner, hoptions⟩ := scan_of_subcommandOf hsubcommand
  obtain ⟨hdirectory, hsave⟩ := flags_of_statusOf hoptions
  have hfound : outer.remaining = rest := by
    cases hsub : outer.subcommand with
    | none =>
        rw [hsub] at hrequired
        cases hrequired
    | some found =>
        rw [hsub] at hrequired
        cases hrequired
        simp [remaining, hsub]
  have hname : IsOptionName "save-dir" := ⟨by decide, by decide⟩
  have hflag : IsOptionName "save" := ⟨by decide, by decide⟩
  refine ⟨inner.value? "save-dir", hdirectory, fun text ↦ ?_, ?_⟩
  · rw [value?_eq_some_iff_of_scan hinner hname (by decide) rfl, ← hfound,
      gives_remaining_iff houter hname (by decide) (by decide)]
  · rw [hsave, hasFlag_iff_of_scan hinner hflag (by decide) rfl, ← hfound,
      givesFlag_remaining_iff houter hflag (by decide) (by decide)]

end Invocation

theorem savesIn_iff (hparse : Invocation.parse env words = .ok i)
    (hstatus : i.subcommand = .status o save) {directory : Option Path} :
    SavesIn env settings words directory ↔
      Invocation.saveDirectory settings (Layout.ofEnvironment env) o.saveDirectory save =
        directory := by
  obtain ⟨given, hdirectory, hgiven, hsave⟩ := Invocation.flags_of_parse hparse hstatus
  rw [hdirectory]
  constructor
  · rintro (h | ⟨hnot, hflag, h⟩ | ⟨hnot, hflag, hsetting, h⟩ | ⟨hnot, hflag⟩)
    · rw [(hgiven _).mpr h]
      rfl
    all_goals
      have hnone : given = none := by
        rw [Option.eq_none_iff_forall_ne_some]
        exact fun text ↦ mt (hgiven text).mp (hnot text)
      rw [hnone]
    · simp [Invocation.saveDirectory, hsave.mpr hflag, h]
    · simp [Invocation.saveDirectory, hsave.mpr hflag, hsetting, hasDownloads_iff.mp h]
    · rw [Bool.eq_false_iff.mpr (mt hsave.mp hflag)]
      rfl
  · rintro rfl
    cases given with
    | some text => exact .given ((hgiven text).mp rfl)
    | none =>
        have hnot : ∀ text, ¬ Gives "save-dir" text words := by
          intro text h
          cases (hgiven text).mpr h
        cases save with
        | false => exact .nowhere hnot (mt hsave.mpr (by decide))
        | true =>
            cases hsetting : settings.downloadDir with
            | some text =>
                simpa [Invocation.saveDirectory, hsetting] using
                  SavesIn.setting hnot (hsave.mp rfl) hsetting
            | none =>
                simpa [Invocation.saveDirectory, hsetting] using
                  SavesIn.downloads hnot (hsave.mp rfl) hsetting (hasDownloads_iff.mpr rfl)

/-! ## Runs -/

/-- No variable describes the log in a torn way, which would break a run off. -/
def CanLog (env : Environment) : Prop :=
  (env "RUST_LOG").map LogFilter.parse ≠ some (.error .torn)

theorem LogFile.filter?_eq_none_iff {level : LogLevel} :
    LogFile.filter? env level = none ↔ ¬ CanLog env := by
  unfold LogFile.filter? CanLog
  split <;> simp [*]

namespace Invocation

variable {σ : Type} {start : Start} {layout : Layout} {files : FileTree}

theorem openLog_of_torn (h : ¬ CanLog start.env) :
    i.openLog start layout settings files = (files, .broken) := by
  rw [openLog, LogFile.filter?_eq_none_iff.mpr h]

theorem openLog_of_canLog (h : CanLog start.env) (hlog : settings.logToFile = false) :
    i.openLog start layout settings files = (files, .without) := by
  have hfilter : LogFile.filter? start.env (i.logLevel.getD settings.logLevel) ≠ none :=
    fun hnone ↦ LogFile.filter?_eq_none_iff.mp hnone h
  obtain ⟨filter, hfilter⟩ := Option.ne_none_iff_exists'.mp hfilter
  simp [openLog, hfilter, hlog]

/-- A torn description of the log breaks a run off. -/
theorem performWith_of_torn (api : Api σ) (h : ¬ CanLog start.env) (w : σ) :
    performWith api start layout settings i files w = (.broken, files, w) := by
  simp only [performWith, openLog_of_torn h]

/-- Without a log file a run is what is performed. -/
theorem performWith_of_canLog (api : Api σ) (h : CanLog start.env)
    (hlog : settings.logToFile = false) (w : σ) :
    performWith api start layout settings i files w =
      let ran := perform api settings layout (Session.fresh settings files) w i.subcommand
      (ran.1, ran.2.1.files, ran.2.2) := by
  simp only [performWith, openLog_of_canLog h hlog]
  rfl

end Invocation

/-- A lookup on a fresh session makes its call, and saves what it shows. -/
theorem Session.statusCommand_fresh {σ : Type} (api : Api σ) (files : FileTree) (w : σ)
    (hfound : o.target.missing? settings.presets = none) :
    let base := (o.target.url? settings.presets).getD settings.baseUrl
    let answer := api (.status ⟨o.contentUrl.getD (base ++ o.kind.path), o.contentId⟩) w
    let rendered := renderStatus answer.1.reply
    let written := saved files o.saveDirectory o.contentId rendered
    ∃ t, (fresh settings files).statusCommand api o w =
      (written.2.map (StatusOutcome.mk rendered), t, answer.2) ∧ t.files = written.1 := by
  intro base answer rendered written
  let s := fresh settings files
  obtain ⟨t, task, hran, ht⟩ :=
    statusCommand_of_found (isNumbered_fresh settings files) hfound api w
  have hrequest : ((s.form.select (o.target.url? s.form.presets)).aim o.aim).statusRequest
      o.contentId = ⟨o.contentUrl.getD (base ++ o.kind.path), o.contentId⟩ :=
    statusRequest_ofSettings settings o
  rw [hrequest] at hran ht
  exact ⟨t, hran, ht.files⟩

/-- How a lookup ends that has saved its response or failed to. -/
def Finish.ofSaved (rendered : String) : Except Error (Option Path) → Finish
  | .ok savedTo => { Finish.printed rendered with saved := savedTo }
  | .error error => .failed error

/-- A text that could be saved, if it was to be, has been printed and is all that is written. One that
could not be saved has not been printed either. -/
theorem Finish.ofSaved_spec (files : FileTree) (directory : Option Path) (contentId text : String) :
    let name := downloadName (some contentId)
    let written := Session.saved files directory contentId text
    let finish := Finish.ofSaved text written.2
    let result := fun d : Path ↦ (files.writeText (d.join (Path.ofString name)) text).2
    (finish.code = 0 ↔ ∀ d, directory = some d → result d = .ok ()) ∧
      (finish.code = 0 → finish.stdout = text ++ "\n" ∧
        finish.saved = directory.map (·.join (Path.ofString name)) ∧
        (directory = none → written.1 = files) ∧
        ∀ d, directory = some d → Session.WrittenIn files written.1 d name text) ∧
      (finish.code ≠ 0 → finish.stdout = "" ∧ finish.saved = none ∧ files.SameFiles written.1) ∧
      ∀ d, directory = some d → ∀ fault, result d = .error fault → finish = .failed (.io fault) := by
  intro name written finish result
  cases directory with
  | none =>
      have hend : finish = Finish.printed text := rfl
      have hfiles : written.1 = files := rfl
      simp [hend, hfiles, Finish.printed]
  | some d =>
      cases hresult : result d with
      | error fault =>
          have hsame : files.SameFiles written.1 :=
            FileTree.sameFiles_of_writeBytes (Prod.ext rfl hresult)
          have hend : finish = .failed (.io fault) :=
            congrArg (Finish.ofSaved text) (Session.saved_of_error hresult)
          simp [hend, hresult, hsame, Finish.failed]
      | ok done =>
          have hwritten : Session.WrittenIn files written.1 d name text :=
            Session.writtenIn_of_writeText ((Form.ofSettings {}).showResponse contentId text)
              (Prod.ext rfl hresult)
          have hend : finish = { Finish.printed text with
              saved := some (d.join (Path.ofString name)) } :=
            congrArg (Finish.ofSaved text) (Session.saved_of_ok hresult).1
          simp [hend, hresult, hwritten, Finish.printed]

section Status

variable {σ : Type} {start : Start} {files : FileTree} (api : Api σ) (w : σ)
  (hparse : Invocation.parse start.env words = .ok i) (hstatus : i.subcommand = .status o save)
  (hload : Settings.load files (i.settingsFile start.env) = .ok settings)

include hparse hstatus hload

theorem runProgram_status : runProgram api start words files w =
    Invocation.performWith api start (Layout.ofEnvironment start.env) settings i files w := by
  have hneeds : i.subcommand.needsSettings = true := by
    rw [hstatus]
    rfl
  rw [runProgram, hparse]
  dsimp only
  rw [Invocation.carryOut_of_needsSettings hneeds, hload]

variable (hcan : CanLog start.env) (hlog : settings.logToFile = false)

include hcan hlog

theorem runProgram_status_of_missing {key : String}
    (hmissing : o.target.missing? settings.presets = some key) :
    runProgram api start words files w = (.failed (.notFound (.preset key)), files, w) := by
  rw [runProgram_status api w hparse hstatus hload, Invocation.performWith_of_canLog api hcan hlog,
    hstatus, Invocation.perform_status]
  dsimp only
  generalize Invocation.saveDirectory settings _ o.saveDirectory save = directory
  obtain ⟨t, hran, ht⟩ := Session.statusCommand_of_missing
    (o := { o with saveDirectory := directory }) (Session.isNumbered_fresh settings files) hmissing
    api w
  rw [hran, ht.files]
  rfl

theorem runProgram_status_of_found (hfound : o.target.missing? settings.presets = none) :
    let base := (o.target.url? settings.presets).getD settings.baseUrl
    let answer := api (.status ⟨o.contentUrl.getD (base ++ o.kind.path), o.contentId⟩) w
    let rendered := renderStatus answer.1.reply
    let written := Session.saved files (Invocation.saveDirectory settings
      (Layout.ofEnvironment start.env) o.saveDirectory save) o.contentId rendered
    runProgram api start words files w = (.ofSaved rendered written.2, written.1, answer.2) := by
  intro base answer rendered written
  rw [runProgram_status api w hparse hstatus hload, Invocation.performWith_of_canLog api hcan hlog,
    hstatus, Invocation.perform_status]
  dsimp only [written]
  generalize Invocation.saveDirectory settings _ o.saveDirectory save = directory
  obtain ⟨t, hran, hfiles⟩ :=
    Session.statusCommand_fresh (o := { o with saveDirectory := directory }) api files w hfound
  rw [hran]
  dsimp only
  rw [hfiles]
  generalize Session.saved files directory o.contentId _ = written
  rcases written with ⟨files', error | savedTo⟩ <;> rfl

end Status

/-- A lookup saves in exactly one directory or in none. Whatever the reply is, the run ends with code
zero, unless its log is torn, its preset is missing or the file can not be written. It has then
printed what the reply renders to and a line break, and the same text without the line break is all
that is written, in one file of that directory, or nowhere. A run that fails prints nothing and
writes no file, and one that can not save ends with code one. -/
theorem status_run_saves_in {σ : Type} (api : Api σ) (start : Start) (words : List String)
    (i : Invocation) (o : StatusOptions) (save : Bool)
    (hparse : Invocation.parse start.env words = .ok i) (hstatus : i.subcommand = .status o save)
    (files : FileTree) (settings : Settings)
    (hload : Settings.load files (i.settingsFile start.env) = .ok settings)
    (hlog : settings.logToFile = false) (w : σ) :
    let ran := runProgram api start words files w
    let base := (o.target.url? settings.presets).getD settings.baseUrl
    let answer := api (.status ⟨o.contentUrl.getD (base ++ o.kind.path), o.contentId⟩) w
    let rendered := renderStatus answer.1.reply
    let name := downloadName (some o.contentId)
    let written := fun directory : Path ↦
      (files.writeText (directory.join (Path.ofString name)) rendered).2
    let starts := CanLog start.env ∧ o.target.missing? settings.presets = none
    ∃ directory, (∀ d, SavesIn start.env settings words d ↔ d = directory) ∧
      (ran.1.code = 0 ↔ starts ∧ ∀ d, directory = some d → written d = .ok ()) ∧
      (ran.1.code = 0 → ran.1.stdout = rendered ++ "\n" ∧ ran.2.2 = answer.2 ∧
        ran.1.saved = directory.map (·.join (Path.ofString name)) ∧
        (directory = none → ran.2.1 = files) ∧
        ∀ d, directory = some d → Session.WrittenIn files ran.2.1 d name rendered) ∧
      (ran.1.code ≠ 0 → ran.1.stdout = "" ∧ ran.1.saved = none ∧ files.SameFiles ran.2.1) ∧
      (starts → ∀ d, directory = some d → ∀ fault, written d = .error fault →
        ran.1 = .failed (.io fault) ∧ ran.1.code = 1) := by
  intro ran base answer rendered name written starts
  obtain ⟨directory, hdirectory⟩ : ∃ directory, Invocation.saveDirectory settings
    (Layout.ofEnvironment start.env) o.saveDirectory save = directory := ⟨_, rfl⟩
  have hsavesIn : ∀ d, SavesIn start.env settings words d ↔ d = directory := by
    intro d
    rw [savesIn_iff hparse hstatus, hdirectory, eq_comm]
  refine ⟨directory, hsavesIn, ?_⟩
  by_cases hcan : CanLog start.env
  · cases hmissing : o.target.missing? settings.presets with
    | some key =>
        have hran : ran = _ :=
          runProgram_status_of_missing api w hparse hstatus hload hcan hlog hmissing
        simp [hran, starts, hmissing, Finish.failed, FileTree.SameFiles.refl]
    | none =>
        have hstarts : starts := ⟨hcan, hmissing⟩
        have hran : ran = (.ofSaved rendered (Session.saved files directory o.contentId rendered).2,
            (Session.saved files directory o.contentId rendered).1, answer.2) := by
          rw [← hdirectory]
          exact runProgram_status_of_found api w hparse hstatus hload hcan hlog hmissing
        obtain ⟨hzero, hends, hfails, hfault⟩ :=
          Finish.ofSaved_spec files directory o.contentId rendered
        rw [hran]
        refine ⟨⟨fun h ↦ ⟨hstarts, hzero.mp h⟩, fun h ↦ hzero.mpr h.2⟩, fun h ↦ ?_, hfails,
          fun _ d hd fault hwritten ↦ ?_⟩
        · exact ⟨(hends h).1, rfl, (hends h).2⟩
        · have hend := hfault d hd fault hwritten
          exact ⟨hend, congrArg Finish.code hend⟩
  · have hran : ran = _ := (runProgram_status api w hparse hstatus hload).trans
      (Invocation.performWith_of_torn api hcan w)
    simp [hran, starts, hcan, Finish.broken, FileTree.SameFiles.refl]

/-- A reply that is a failure is printed and saved like any other, here below the user's home. -/
theorem status_run_saves_failure_at_home :
    let api : Api Nat := fun _ n ↦ (⟨.error .requestFailed, []⟩, n + 1)
    let start : Start := { env := fun name ↦ if name = "HOME" then some "h" else none, time := "" }
    let words := ["status", "a", "--save"]
    let ran := runProgram api start words ⟨[], []⟩ 0
    let text := renderStatus (.error .requestFailed)
    ran.1.code = 0 ∧ ran.1.stdout = text ++ "\n" ∧ ran.2.2 = 1 ∧
      Session.WrittenIn ⟨[], []⟩ ran.2.1 (Path.ofString "h/.delta-uploader/downloads")
        "status-check-fora.txt" text := by
  intro api start words
  let o : StatusOptions := { contentId := "a" }
  let i : Invocation := { subcommand := .status o true }
  have hparse : Invocation.parse start.env words = .ok i := by decide +kernel
  have hload : Settings.load ⟨[], []⟩ (i.settingsFile start.env) = .ok .standard :=
    Settings.load_of_missing (by decide +kernel)
  obtain ⟨directory, hsaves, hzero, hends, -⟩ :=
    status_run_saves_in api start words i o true hparse rfl ⟨[], []⟩ .standard hload rfl 0
  have hgiven : ∀ text, ¬ Gives "save-dir" text words := by
    intro text
    have hname : IsOptionName "save-dir" := ⟨by decide, by decide⟩
    have hplain : shapeOf "status" = .plain ∧ shapeOf "a" = .plain := ⟨rfl, rfl⟩
    have hlong : shapeOf "--save" = .long "save" none := rfl
    simp [words, gives_cons_iff hname, not_gives_nil, hplain, hlong]
  have hhome : HasDownloads start.env (Path.ofString "h/.delta-uploader/downloads") :=
    hasDownloads_iff.mpr (by decide +kernel)
  obtain rfl := (hsaves _).mp (.downloads hgiven (by decide) rfl hhome)
  have hwrites : ∀ d, some (Path.ofString "h/.delta-uploader/downloads") = some d →
      (FileTree.writeText ⟨[], []⟩
        (d.join (Path.ofString (downloadName (some o.contentId))))
          (renderStatus (.error .requestFailed))).2 = .ok () := by
    rintro d ⟨rfl⟩
    decide +kernel
  have hcode := hzero.mpr ⟨⟨nofun, rfl⟩, hwrites⟩
  obtain ⟨hstdout, hworld, -, -, hwritten⟩ := hends hcode
  have hname : downloadName (some o.contentId) = "status-check-fora.txt" := by decide +kernel
  rw [hname] at hwritten
  exact ⟨hcode, hstdout, hworld, hwritten _ rfl⟩

end DealForm
