import DealForm.Deal.Upload
import DealForm.Log.Event

/-!
# Calls to the deal service

The two things that are asked of the service: to take an upload as a deal, and to tell the status
of an identifier. A reply is a JSON value of any shape, or an error. Any backend that answers calls
will do.
-/

namespace DealForm

inductive Call where
  | upload (request : UploadRequest)
  | status (request : StatusRequest)
  deriving Repr

abbrev Reply := Except Error Json

/-- What a call brings back, and what is worth a line in the log. -/
structure Served where
  reply : Reply
  events : List LogEvent := []

abbrev Api (σ : Type) := Call → σ → Served × σ

namespace Call

def refusal : Call → Error
  | upload _ => .uploadFailed
  | status _ => .requestFailed

def url : Call → String
  | upload r => r.endpoint
  | status r => r.url

end Call

end DealForm
