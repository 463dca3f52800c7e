import DealForm.File.Tree
import DealForm.Http.Fault
import DealForm.Json.Fault

/-!
# Errors

Why a command or a call failed. Every error has one text, which is what a user sees.
-/

namespace DealForm

inductive ConfigFault where
  | unreadable (file : Path) (fault : FileFault)
  | malformed (file : Path) (report : Json.Report)
  | present (file : Path)
  /-- A fault that a backend reports in words of its own. -/
  | stated (message : String)
  deriving DecidableEq, Repr

inductive MetadataFault where
  | malformed (report : Json.Report)
  | stated (message : String)
  deriving DecidableEq, Repr

inductive Missing where
  | preset (key : String)
  | stated (message : String)
  deriving DecidableEq, Repr

inductive Error where
  | io (fault : FileFault)
  | json (report : Json.Report)
  | http (fault : HttpFault)
  /-- A backend that is not the HTTP client could not reach the service. -/
  | transport (message : String)
  | uploadFailed
  | requestFailed
  | config (fault : ConfigFault)
  | invalidMetadata (fault : MetadataFault)
  | notFound (what : Missing)
  deriving DecidableEq, Repr

def FileFault.errorMessage (fault : FileFault) : String :=
  "IO error: " ++ fault.message

def Json.Report.errorMessage (report : Json.Report) : String :=
  "JSON error: " ++ report.message

namespace ConfigFault

def message : ConfigFault → String
  | unreadable file fault => file.display ++ ": " ++ fault.errorMessage
  | malformed file report => file.display ++ ": " ++ report.errorMessage
  | present file => file.display ++ " already exists"
  | stated message => message

end ConfigFault

namespace MetadataFault

def message : MetadataFault → String
  | malformed report => report.message
  | stated message => message

end MetadataFault

namespace Missing

def message : Missing → String
  | preset key => "preset '" ++ key ++ "'"
  | stated message => message

end Missing

namespace Error

def message : Error → String
  | io fault => fault.errorMessage
  | json report => report.errorMessage
  | http fault => fault.message
  | transport message => message
  | uploadFailed => "Upload failed"
  | requestFailed => "Request failed"
  | config fault => "Configuration error: " ++ fault.message
  | invalidMetadata fault => "Invalid metadata: " ++ fault.message
  | notFound what => "Not found: " ++ what.message

end Error

end DealForm
