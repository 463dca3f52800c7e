import DealForm.Deal.Reply
import DealForm.Error
import DealForm.Http.Message
import DealForm.Log.Level
import DealForm.Status

/-!
# Log events

What is worth a line in the log. Each event has a level, comes from a part of the program, and has
a text.
-/

namespace DealForm

inductive LogEvent where
  | selectedBaseUrl (url : String)
  | uploading (fileName : String) (size : Nat) (endpoint : String)
  | uploadFailed (fileName : String) (error : Error)
  | lookingUp (kind : StatusKind) (contentId : String)
  | requestingStatus (url : String)
  | statusFailed (url : String) (error : Error)
  | savedResponse (file : Path)
  | getting (url : String)
  | posting (url minerId : String)
  | refused (method : Method) (status : Nat)
  | refusalBody (method : Method) (body : String)
  | dealAnswered (fileName : String) (reply : DealReply)
  deriving Repr

namespace LogEvent

def level : LogEvent → LogLevel
  | selectedBaseUrl _ => .debug
  | uploading _ _ _ => .info
  | uploadFailed _ _ => .warn
  | lookingUp _ _ => .info
  | requestingStatus _ => .info
  | statusFailed _ _ => .warn
  | savedResponse _ => .info
  | getting _ => .debug
  | posting _ _ => .debug
  | refused _ _ => .warn
  | refusalBody _ _ => .debug
  | dealAnswered _ _ => .info

def target : LogEvent → String
  | lookingUp _ _ => "delta_uploader::app::run"
  | getting _ => "delta_uploader::http::client"
  | posting _ _ => "delta_uploader::http::client"
  | refused _ _ => "delta_uploader::http::client"
  | refusalBody _ _ => "delta_uploader::http::client"
  | dealAnswered _ _ => "delta_uploader::http::deals"
  | _ => "delta_uploader::bridge::form"

def fields : List String :=
  ["message"]

def contentIdText : Option Int → String
  | none => "None"
  | some n => "Some(" ++ toString n ++ ")"

def message : LogEvent → String
  | selectedBaseUrl url => "Selected base URL " ++ url
  | uploading fileName size endpoint =>
    "Uploading " ++ fileName ++ " (" ++ toString size ++ " bytes) to " ++ endpoint
  | uploadFailed fileName error => "Upload of " ++ fileName ++ " failed: " ++ error.message
  | lookingUp kind contentId => "Looking up " ++ kind.name ++ " " ++ contentId
  | requestingStatus url => "Requesting status " ++ url
  | statusFailed url error => "Status request for " ++ url ++ " failed: " ++ error.message
  | savedResponse file => "Saved response to " ++ file.display
  | getting url => "GET " ++ url
  | posting url minerId => "POST " ++ url ++ " (multipart, miner " ++ minerId ++ ")"
  | refused method status =>
    "HTTP " ++ method.label ++ " failed: " ++ StatusCode.text status
  | refusalBody method body => "HTTP " ++ method.label ++ " failure body: " ++ body
  | dealAnswered fileName reply =>
    "Deal upload for " ++ fileName ++ " answered '" ++ reply.status ++ "' (content id " ++
      contentIdText reply.contentId ++ "): " ++ reply.message

end LogEvent

end DealForm
