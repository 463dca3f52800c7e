import DealForm.Proofs.Command.Lookup
import DealForm.Proofs.File.Agreement
import DealForm.Proofs.Settings.Creation

/-!
# Runs and their settings file

A run that needs settings fails if their file is broken. If the file is missing the run goes as if
it held an empty object, as long as nothing else that the run reads or writes is in the place of the
file or below. The other runs do not read the file at all.
-/

namespace DealForm

open FileTree

namespace Settings

variable {files : FileTree} {file : Path}

end Settings

/-! ## Commands on two trees -/

namespace Session

variable {σ : Type} {settings : Settings} {files files' : FileTree}

end Session

/-! ## Runs -/

/-- Uploads, lookups and lists of presets need settings. -/
def Subcommand.needsSettings : Subcommand → Bool
  | upload _ | status .. | presets => true
  | init | version => false

namespace Invocation

variable {σ : Type} {i : Invocation} {env : Environment} {files files' : FileTree}
  {place : Location} {content : Bytes}

theorem carryOut_of_needsSettings (h : i.subcommand.needsSettings = true) (api : Api σ)
    (start : Start) (files : FileTree) (w : σ) : i.carryOut api start files w =
      match Settings.load files (i.settingsFile start.env) with
      | .ok settings => performWith api start (Layout.ofEnvironment start.env) settings i files w
      | .error error => (.failed error, files, w) := by
  unfold carryOut
  cases hsubcommand : i.subcommand with
  | init | version =>
      rw [hsubcommand] at h
      cases h
  | upload | status | presets => rfl

/-- The same is printed, the same file is named and the code is the same; only what is said of an
error may differ. -/
structure Agree (f f' : Finish) : Prop where
  code : f'.code = f.code
  stdout : f'.stdout = f.stdout
  saved : f'.saved = f.saved

theorem perform_status (api : Api σ) (settings : Settings) (layout : Layout) (s : Session)
    (o : StatusOptions) (save : Bool) (w : σ) : perform api settings layout s w (.status o save) =
      let directory := saveDirectory settings layout o.saveDirectory save
      let ran := s.statusCommand api { o with saveDirectory := directory } w
      (match ran.1 with
        | .ok outcome => { Finish.printed outcome.rendered with saved := outcome.savedTo }
        | .error error => .failed error, ran.2) := by
  rw [perform]
  dsimp only
  split <;> next heq => rw [heq]

end Invocation

end DealForm
