import DealForm.Http.Fault
import DealForm.Http.Message
import DealForm.Text.Base64
import DealForm.Url.Join

/-!
# Transfers

A request and the redirects that follow from it, up to the response that is handed back. A transfer
waits for an answer and then either ends or sends its next request; ten redirects are followed. A
request with a body is not repeated: where a redirect asks for that, its response is handed back.
-/

namespace DealForm

namespace Url

def decoded? (part : List Char) : Option String :=
  (Utf8.decode (Percent.decode (Utf8.encodeChars part))).toOption

def credentials? (u : Url) : Option (String × Option String) := do
  let name ← decoded? u.username
  let password := if u.password.isEmpty then none else decoded? u.password
  if name.isEmpty && password.isNone then none else some (name, password)

end Url

def Header.basic (name : String) (password : Option String) : Header where
  name := "authorization"
  value := "Basic " ++
    String.ofList (Base64.encode (Utf8.encode (name ++ ":" ++ password.getD "")))

structure Transfer where
  start : Url
  request : Request
  headers : List Header
  /-- How many more redirects are followed. -/
  redirectsLeft : Nat
  deriving Repr

namespace Transfer

def maxRedirects : Nat := 10

inductive Progress where
  | waiting (t : Transfer)
  | ended (result : Except HttpFault Response)

/-! ## The first request -/

def openUrl (text : String) : Except HttpFault Url :=
  match Url.parse? text with
  | none => .error .malformed
  | some u => if u.hasHost then .ok u else .error (.unsendable u.text)

/-- The URL without its user, and the header that stands for the user instead. -/
def takeUser (u : Url) : Url × List Header :=
  match u.credentials? with
  | none => (u, [])
  | some (name, password) => (u.withoutUser, [Header.basic name password])

def fresh (method : Method) (u : Url) (headers : List Header) (body : Option Bytes) :
    Transfer where
  start := u
  request := { method, address := u.asAddress, headers, body }
  headers := headers
  redirectsLeft := maxRedirects

def begin? (method : Method) (url : String) (headers : List Header) (body : Option Bytes := none) :
    Except HttpFault Transfer := do
  let u ← openUrl url
  let (u, userHeaders) := takeUser u
  if !headers.all Header.isSendable then .error .malformed
  else if !(u.isWeb && u.isAddress) then .error (.unsendable u.text)
  else .ok (fresh method u (⟨"accept", "*/*"⟩ :: userHeaders ++ headers) body)

/-! ## Redirects -/

/-- How a redirect with this status goes on from a request: with which method and body. -/
def repeatedAs? (status : Nat) (request : Request) : Option (Method × Option Bytes) :=
  if status = 301 || status = 302 then
    match request.method with
    | .post => some (.get, none)
    | .get => some (.get, request.body)
  else if status = 303 then some (.get, none)
  else if status = 307 || status = 308 then some (request.method, request.body)
  else none

/-- The header by which a request says where it was sent on; nothing is said of a secure place to
one that is not. -/
def referer (previous next : Url) : List Header :=
  if previous.scheme == "https".toList && next.scheme == "http".toList then []
  else [⟨"referer", previous.withoutUser.withoutFragment.text⟩]

/-- Headers for the eyes of the place they are sent to. -/
def isPrivate (h : Header) : Bool :=
  h.name == "authorization"

/-- The headers of a request that has no body any more. -/
def withoutContent (headers : List Header) : List Header :=
  headers.filter (·.name != "content-type")

def goOn (t : Transfer) (method : Method) (next : Url) : Progress :=
  let here := t.request.address
  match t.redirectsLeft with
  | 0 => .ended (.error (.redirectedTooOften here.text))
  | left + 1 =>
    if !next.isWeb then .ended (.error (.unsendable next.text))
    else
      let headers := if t.request.method = method then t.headers else withoutContent t.headers
      let sent := if here.sharesPlace next then headers else headers.filter (!isPrivate ·)
      .waiting
        { t with
          request := { method, address := next, headers := sent ++ referer here next }
          headers
          redirectsLeft := left }

def next? (t : Transfer) (r : Response) : Option Url :=
  ((r.place?.bind t.request.address.join?).filter (·.isAddress)).map (·.asAddress)

def receive (t : Transfer) (r : Response) : Progress :=
  match repeatedAs? r.status t.request with
  | some (method, none) =>
    match t.next? r with
    | some next => t.goOn method next
    | none => .ended (.ok r)
  | _ => .ended (.ok r)

def answered (t : Transfer) : Answer → Progress
  | .refused => .ended (.error (.unanswered t.start.text))
  | .closed => .ended (.error (.unanswered t.start.text))
  | .response r =>
    if r.isReadable then t.receive r else .ended (.error (.unanswered t.start.text))

theorem redirectsLeft_lt_of_goOn {t u : Transfer} {method : Method} {next : Url}
    (h : t.goOn method next = .waiting u) : u.redirectsLeft < t.redirectsLeft := by
  simp only [goOn] at h
  split at h
  · cases h
  · next heq =>
    split at h
    · cases h
    · cases h
      simp only [heq]
      omega

/-- Each redirect that is followed uses one up. -/
theorem redirectsLeft_lt_of_answered {t u : Transfer} {a : Answer}
    (h : t.answered a = .waiting u) : u.redirectsLeft < t.redirectsLeft := by
  cases a with
  | refused => cases h
  | closed => cases h
  | response r =>
    simp only [answered] at h
    split at h
    · unfold receive at h
      split at h
      · split at h
        · exact redirectsLeft_lt_of_goOn h
        · cases h
      · cases h
    · cases h

def run {σ : Type} (net : Network σ) (t : Transfer) (s : σ) : Except HttpFault Response × σ :=
  let step := net t.request s
  match _h : t.answered step.1 with
  | .ended result => (result, step.2)
  | .waiting next => run net next step.2
termination_by t.redirectsLeft
decreasing_by exact redirectsLeft_lt_of_answered _h

end Transfer

end DealForm
