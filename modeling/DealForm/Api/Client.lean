import DealForm.Api.Call
import DealForm.Http.Multipart
import DealForm.Http.Transfer
import DealForm.Json.Reader

/-!
# The HTTP client

Calls as HTTP requests. An upload is a form with the file and the metadata, with the key as bearer
token and the miner in a header of its own; a lookup carries no credentials. A response outside the
codes of success is a refusal whatever it holds; one within must hold a JSON document, whatever its
shape.
-/

namespace DealForm

namespace UploadRequest

def parts (r : UploadRequest) : List Multipart.Part :=
  [{ name := "data", fileName := some r.input.file.fileName, content := r.input.file.bytes },
    { name := "metadata", content := Utf8.encode r.metadata.formValue }]

def headers (boundary : String) (r : UploadRequest) : List Header :=
  [⟨"authorization", "Bearer " ++ r.input.apiKey⟩, ⟨"x-minerid", r.input.minerId⟩,
    ⟨"content-type", Multipart.contentType boundary⟩]

end UploadRequest

namespace Call

def method : Call → Method
  | upload _ => .post
  | status _ => .get

def transfer? (boundary : String) : Call → Except HttpFault Transfer
  | upload r =>
    Transfer.begin? .post r.endpoint (r.headers boundary) (some (Multipart.body boundary r.parts))
  | status r => Transfer.begin? .get r.url []

def departure : Call → LogEvent
  | upload r => .posting r.endpoint r.input.minerId
  | status r => .getting r.url

/-- What the log tells of a refusal: the status, and the body as far as it is there. -/
def refusalEvents (c : Call) (r : Response) : List LogEvent :=
  [.refused c.method r.status, .refusalBody c.method (Utf8.decodeLossy (r.wholeBody?.getD []))]

def successEvents (c : Call) (body : Json) : List LogEvent :=
  match c, DealReply.ofJson? body with
  | upload r, some reply => [.dealAnswered r.input.file.fileName reply]
  | _, _ => []

def document? (r : Response) : Option Json := do
  let bytes ← r.wholeBody?
  let text ← (Utf8.decode bytes).toOption
  (Json.parse text).toOption

def conclude (c : Call) (r : Response) : Served :=
  if StatusCode.isSuccess r.status then
    match document? r with
    | some body => { reply := .ok body, events := c.successEvents body }
    | none => { reply := .error (.http .undecodable) }
  else { reply := .error c.refusal, events := c.refusalEvents r }

def concludeTransfer (c : Call) : Except HttpFault Response → Served
  | .ok r => c.conclude r
  | .error fault => { reply := .error (.http fault) }

end Call

def Api.http {σ : Type} (boundary : String) (net : Network σ) : Api σ := fun call s ↦
  let (served, s) :=
    match call.transfer? boundary with
    | .error fault => (call.concludeTransfer (.error fault), s)
    | .ok transfer =>
      let (result, s) := transfer.run net s
      (call.concludeTransfer result, s)
  ({ served with events := call.departure :: served.events }, s)

end DealForm
