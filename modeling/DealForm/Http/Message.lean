import DealForm.Http.Address
import DealForm.Http.StatusCode

/-!
# Requests and responses

What is sent to an address and what comes back. A header value may hold any bytes but controls,
a tab excepted; the names of headers are written in lower case.
-/

namespace DealForm

inductive Method where
  | get
  | post
  deriving DecidableEq, Repr

namespace Method

def label : Method → String
  | get => "GET"
  | post => "POST"

end Method

structure Header where
  name : String
  value : String
  deriving DecidableEq, Repr

namespace Header

def isValueByte (b : UInt8) : Bool :=
  b == 9 || (0x20 ≤ b && b != 0x7F)

def isSendable (h : Header) : Bool :=
  (Utf8.encode h.value).all isValueByte

end Header

structure Request where
  method : Method
  /-- Where the request goes: a web URL without a fragment. -/
  address : Url
  headers : List Header
  /-- None where a request has no body, which is then easily sent again. -/
  body : Option Bytes := none
  deriving Repr

structure Response where
  status : Nat
  location : Option String := none
  body : Bytes := []
  /-- The whole body arrived, and in time. -/
  isComplete : Bool := true
  deriving Repr

namespace Response

/-- A response with some codes has no body, whatever follows its headers. -/
def hasNoBody (r : Response) : Bool :=
  r.status == 101 || r.status == 204 || r.status == 304

def wholeBody? (r : Response) : Option Bytes :=
  if r.hasNoBody then some []
  else if r.isComplete then some r.body else none

/-- The response ends the exchange and its head can be read. -/
def isReadable (r : Response) : Bool :=
  StatusCode.isWritable r.status && !StatusCode.isInterim r.status &&
    r.location.all fun place ↦ Header.isSendable ⟨"location", place⟩

/-- The value of the header that names a place, without blanks around it. -/
def place? (r : Response) : Option String :=
  let isBlank (c : Char) : Bool := c == ' ' || c == '\t'
  r.location.map fun text ↦
    String.ofList ((text.toList.dropWhile isBlank).reverse.dropWhile isBlank).reverse

end Response

inductive Answer where
  /-- Nobody listens at the address. -/
  | refused
  /-- The connection ended before a response, or the response took too long. -/
  | closed
  | response (r : Response)
  deriving Repr

abbrev Network (σ : Type) := Request → σ → Answer × σ

end DealForm
