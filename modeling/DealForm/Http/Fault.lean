/-!
# Faults of a request

Why a request brought no response to show. A fault names the URL that it concerns, unless the text
of the URL or a header was already wrong.
-/

namespace DealForm

inductive HttpFault where
  | malformed
  | unsendable (url : String)
  | unanswered (url : String)
  /-- One redirect too many led away from the URL. -/
  | redirectedTooOften (url : String)
  /-- The body of a response is cut short or no JSON document. -/
  | undecodable
  | stated (message : String)
  deriving DecidableEq, Repr

namespace HttpFault

def concerning (kind url : String) : String :=
  kind ++ " for url (" ++ url ++ ")"

def message : HttpFault → String
  | malformed => "builder error"
  | unsendable url => concerning "builder error" url
  | unanswered url => concerning "error sending request" url
  | redirectedTooOften url => concerning "error following redirect" url
  | undecodable => "error decoding response body"
  | stated message => message

end HttpFault

end DealForm
