import DealForm.Error
import DealForm.Settings.Reader

/-!
# Settings files

Settings are read from a file, or are the standard ones where there is no file. A file with the
standard settings is written once and never over another one. The directory of the program's files
is chosen by the environment.
-/

namespace DealForm

namespace Settings

def load (files : FileTree) (file : Path) : Except Error Settings :=
  if !files.holds file then .ok standard
  else
    match files.readText file with
    | .error fault => .error (.config (.unreadable file fault))
    | .ok text => (parse text).mapError fun report ↦ .config (.malformed file report)

def write (files : FileTree) (file : Path) (s : Settings) : FileTree × Except FileFault Unit :=
  files.writeText file s.text

def init (files : FileTree) (file : Path) : FileTree × Except Error Path :=
  if files.holds file then (files, .error (.config (.present file)))
  else
    match write files file standard with
    | (files, .ok ()) => (files, .ok file)
    | (files, .error fault) => (files, .error (.io fault))

end Settings

/-- The variables that a program is started with. Their values are texts: none is left with bytes
that are not UTF-8. -/
abbrev Environment := String → Option String

structure Layout where
  base : Path
  deriving DecidableEq, Repr

namespace Layout

def settingsFile (l : Layout) : Path :=
  l.base.join (Path.ofString "settings.json")

def logsDirectory (l : Layout) : Path :=
  l.base.join (Path.ofString "logs")

def downloadsDirectory (l : Layout) : Path :=
  l.base.join (Path.ofString "downloads")

/-- The directory that the environment names for this program, or else a hidden one in the user's
home, or in the working directory. -/
def ofEnvironment (env : Environment) : Layout :=
  match env "DELTA_UPLOADER_HOME" with
  | some directory => ⟨Path.ofString directory⟩
  | none =>
    let home := ((env "HOME").or (env "USERPROFILE")).getD "."
    ⟨(Path.ofString home).join (Path.ofString ".delta-uploader")⟩

end Layout

end DealForm
