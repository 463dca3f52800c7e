import DealForm.CommandLine.Run

/-!
# Footprints

The places in a file tree that a run may look at. Beyond the settings file they depend on the
settings: the log, the file of an upload, and the file that a response is saved in.
-/

namespace DealForm

namespace Location

/-- The places that names lead through from a place, the last one being where they lead to. -/
def along (place : Location) : List Name → List Location
  | [] => []
  | name :: names =>
    let next :=
      if name = Path.dot then place
      else if name = Path.dotDot then place.dropLast
      else place ++ [name]
    next :: along next names

end Location

namespace Path

def waypoints (p : Path) (workingDirectory : Location) : List Location :=
  Location.along (if p.isAbsolute then [] else workingDirectory) p.names

end Path

namespace Invocation

def savedFile? (settings : Settings) (layout : Layout) : Subcommand → Option Path
  | .status options save =>
    (saveDirectory settings layout options.saveDirectory save).map fun directory ↦
      directory.join (Path.ofString (downloadName (some options.contentId)))
  | _ => none

def uploadedFile? : Subcommand → Option Path
  | .upload options => some options.file
  | _ => none

def logFile? (settings : Settings) (layout : Layout) : Option Path :=
  if settings.logToFile then some (layout.logsDirectory.join (Path.ofString LogFile.name))
  else none

/-- The files that an invocation reads or writes when it has these settings. -/
def footprint (settings : Settings) (env : Environment) (i : Invocation) : List Path :=
  let layout := Layout.ofEnvironment env
  (logFile? settings layout).toList ++ (uploadedFile? i.subcommand).toList ++
    (savedFile? settings layout i.subcommand).toList

end Invocation

end DealForm
