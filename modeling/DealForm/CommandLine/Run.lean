import DealForm.CommandLine.Invocation
import DealForm.Log.Line

/-!
# Runs of the program

A command line carried out: what it prints, the code it ends with, and what becomes of the files.
Settings are read before anything else is done, unless the command needs none; a command that fails
ends with code one and the text of its error. Where the settings ask for it, events are appended to
a log file.
-/

namespace DealForm

structure VersionInfo where
  version : String := "0.1.0"
  gitHash : String := "unknown"
  buildTime : String := "unknown"
  deriving DecidableEq, Repr

namespace VersionInfo

def toJson (v : VersionInfo) : Json :=
  .object [("version", .string v.version), ("git_hash", .string v.gitHash),
    ("build_time", .string v.buildTime)]

end VersionInfo

structure Start where
  info : VersionInfo := {}
  env : Environment
  time : String

structure Finish where
  code : Nat
  stdout : String := ""
  error : Option String := none
  saved : Option Path := none
  deriving DecidableEq, Repr

namespace Error

/-- The text of an error and of what caused it. -/
def report : Error → String
  | io fault => fault.errorMessage ++ ": " ++ fault.message
  | json report => report.errorMessage ++ ": " ++ report.message
  | error => error.message

end Error

namespace Finish

def failed (error : Error) : Finish where
  code := 1
  error := some ("error: " ++ error.report)

def printed (line : String) : Finish where
  code := 0
  stdout := line ++ "\n"

def broken : Finish where
  code := 101

def ofHalt (info : VersionInfo) : Halt → Finish
  | .version => printed ("delta-uploader " ++ info.version)
  | .help => { code := 0 }
  | .invalid => { code := 2 }

end Finish

/-! ## Logs -/

structure LogFile where
  file : Path
  filter : LogFilter
  deriving DecidableEq, Repr

namespace LogFile

def name : String := "delta-uploader.log"

/-- The filter of a run: the one that the environment describes, or else the level. There is none if
the description is torn. -/
def filter? (env : Environment) (level : LogLevel) : Option LogFilter :=
  match (env "RUST_LOG").map LogFilter.parse with
  | some (.ok filter) => some filter
  | some (.error .torn) => none
  | some (.error .invalid) => some (.ofLevel level)
  | none => some (.ofLevel level)

inductive Opened where
  /-- Nothing is logged to a file. -/
  | without
  | ready (log : LogFile)
  | broken

/-- Opens the log in a directory, which is made if need be. A directory that can not be made is no
reason to stop; a log that can not be opened in it is. -/
def openIn (files : FileTree) (directory : Path) (filter : LogFilter) : FileTree × Opened :=
  match files.makeDirectories directory with
  | (files, .error _) => (files, .without)
  | (files, .ok ()) =>
    let file := directory.join (Path.ofString name)
    match files.append file [] with
    | .ok files => (files, .ready ⟨file, filter⟩)
    | .error _ => (files, .broken)

def write (log : LogFile) (time : String) (events : List LogEvent) (files : FileTree) : FileTree :=
  match files.append log.file (Utf8.encode (log.filter.lines time events)) with
  | .ok files => files
  | .error _ => files

end LogFile

namespace Invocation

variable {σ : Type}

def presetLine (baseUrl : String) (p : Preset) : String :=
  let padding := String.ofList (List.replicate (16 - p.name.length) ' ')
  (if p.url == baseUrl then "*" else " ") ++ " " ++ p.name ++ padding ++ " " ++ p.url ++ "\n"

/-- The directory that a response is saved in: the one that is given, or else, if it is to be
saved, the one of the settings or of the layout. -/
def saveDirectory (settings : Settings) (layout : Layout) (given : Option Path) (save : Bool) :
    Option Path :=
  match given, save with
  | some directory, _ => some directory
  | none, true =>
    some ((settings.downloadDir.map Path.ofString).getD layout.downloadsDirectory)
  | none, false => none

def perform (api : Api σ) (settings : Settings) (layout : Layout) (s : Session) (w : σ) :
    Subcommand → Finish × Session × σ
  | .upload options =>
    match s.uploadCommand api options w with
    | (.ok text, s, w) => (.printed text, s, w)
    | (.error error, s, w) => (.failed error, s, w)
  | .status options save =>
    let directory := saveDirectory settings layout options.saveDirectory save
    match s.statusCommand api { options with saveDirectory := directory } w with
    | (.ok outcome, s, w) =>
      ({ Finish.printed outcome.rendered with saved := outcome.savedTo }, s, w)
    | (.error error, s, w) => (.failed error, s, w)
  | .presets =>
    let lines := s.form.presets.map (presetLine settings.baseUrl)
    ({ code := 0, stdout := String.join lines }, s, w)
  | .init => ({ code := 0 }, s, w)
  | .version => ({ code := 0 }, s, w)

def openLog (start : Start) (layout : Layout) (settings : Settings) (i : Invocation)
    (files : FileTree) : FileTree × LogFile.Opened :=
  match LogFile.filter? start.env (i.logLevel.getD settings.logLevel) with
  | none => (files, .broken)
  | some filter =>
    if settings.logToFile then LogFile.openIn files layout.logsDirectory filter
    else (files, .without)

def performWith (api : Api σ) (start : Start) (layout : Layout) (settings : Settings)
    (i : Invocation) (files : FileTree) (w : σ) : Finish × FileTree × σ :=
  let (files, log) := i.openLog start layout settings files
  let form := Form.ofSettings settings
  match log with
  | .broken => (.broken, files, w)
  | .without =>
    let (finish, s, w) := perform api settings layout (.ofForm form files) w i.subcommand
    (finish, s.files, w)
  | .ready log =>
    let (finish, s, w) := perform api settings layout (.ofForm form files) w i.subcommand
    (finish, log.write start.time s.log s.files, w)

def settingsFile (env : Environment) (i : Invocation) : Path :=
  i.config.getD (Layout.ofEnvironment env).settingsFile

def carryOut (api : Api σ) (start : Start) (i : Invocation) (files : FileTree) (w : σ) :
    Finish × FileTree × σ :=
  let layout := Layout.ofEnvironment start.env
  let file := i.settingsFile start.env
  match i.subcommand with
  | .version => (.printed start.info.toJson.stored, files, w)
  | .init =>
    match Settings.init files file with
    | (files, .ok file) => (.printed ("Wrote " ++ file.display), files, w)
    | (files, .error error) => (.failed error, files, w)
  | _ =>
    match Settings.load files file with
    | .ok settings => performWith api start layout settings i files w
    | .error error => (.failed error, files, w)

end Invocation

/-- Runs the program on a command line, the words of which are texts: none is left with bytes that
are not UTF-8. -/
def runProgram {σ : Type} (api : Api σ) (start : Start) (words : List String) (files : FileTree)
    (w : σ) : Finish × FileTree × σ :=
  match Invocation.parse start.env words with
  | .ok i => i.carryOut api start files w
  | .error halt => (.ofHalt start.info halt, files, w)

end DealForm
