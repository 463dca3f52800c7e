import DealForm.Http.Message

/-!
# Messages on the wire

A message is the lines of its head, an empty line and its body. Responses are read from the bytes
that came back before the connection ended. Interim ones are passed over; a body is as long as its
head says, in one piece or in chunks, or else lasts to the end.
-/

namespace DealForm

def Header.line (h : Header) : Bytes :=
  Utf8.encode h.name ++ Utf8.encode ": " ++ Utf8.encode h.value

namespace Wire

def lineEnd : Bytes := [13, 10]

def message (lines : List Bytes) (body : Bytes) : Bytes :=
  lines.flatMap (· ++ lineEnd) ++ (lineEnd ++ body)

def cutLine : Bytes → Option (Bytes × Bytes)
  | [] => none
  | 13 :: 10 :: rest => some ([], rest)
  | b :: rest => (cutLine rest).map fun (line, rest) ↦ (b :: line, rest)

/-- The lines up to an empty one, and what follows it, reading at most `turns` lines. -/
def cutHead : Nat → Bytes → Option (List Bytes × Bytes)
  | 0, _ => none
  | turns + 1, bytes => do
    let (line, rest) ← cutLine bytes
    if line.isEmpty then return ([], rest)
    else
      let (lines, rest) ← cutHead turns rest
      return (line :: lines, rest)

def number? (base : Nat) (cs : List Char) : Option Nat :=
  if cs.isEmpty then none else Host.natIn? base cs

def status? (line : Bytes) : Option Nat :=
  let cs := (Utf8.decodeLossy line).toList
  if "HTTP/1.".toList.isPrefixOf cs then
    number? 10 (((cs.dropWhile (· != ' ')).drop 1).takeWhile (· != ' '))
  else none

/-- A header line: the name in lower case and the value without blanks around it. -/
def header (line : Bytes) : Header :=
  let cs := (Utf8.decodeLossy line).toList
  let isBlank (c : Char) : Bool := c == ' ' || c == '\t'
  let value := (((cs.dropWhile (· != ':')).drop 1).dropWhile isBlank).reverse.dropWhile isBlank
  { name := String.ofList ((cs.takeWhile (· != ':')).map Char.toLower)
    value := String.ofList value.reverse }

def headerValue? (headers : List Header) (name : String) : Option String :=
  (headers.find? (·.name == name)).map Header.value

def chunks : Nat → Bytes → Bytes × Bool
  | 0, _ => ([], false)
  | turns + 1, bytes =>
    match cutLine bytes with
    | none => ([], false)
    | some (line, rest) =>
      let digits := (Utf8.decodeLossy line).toList.takeWhile fun c ↦ c != ';' && c != ' '
      match number? 16 digits with
      | none => ([], false)
      | some 0 => ([], true)
      | some size =>
        if rest.length < size then (rest, false)
        else
          let (more, isWhole) := chunks turns (rest.drop (size + 2))
          (rest.take size ++ more, isWhole)

inductive Extent where
  | chunks
  | length (size : Nat)
  | endOfConnection

def extent (headers : List Header) : Extent :=
  if headerValue? headers "transfer-encoding" == some "chunked" then .chunks
  else
    match (headerValue? headers "content-length").bind fun n ↦ number? 10 n.toList with
    | some size => .length size
    | none => .endOfConnection

def body (isEnded : Bool) (rest : Bytes) : Extent → Bytes × Bool
  | .chunks => chunks (rest.length + 1) rest
  | .length size => (rest.take size, size ≤ rest.length)
  | .endOfConnection => (rest, isEnded)

/-- The final response in the bytes of a connection, passing over at most `turns` interim ones. -/
def response? (isEnded : Bool) : Nat → Bytes → Option Response
  | 0, _ => none
  | turns + 1, bytes => do
    let (lines, rest) ← cutHead (bytes.length + 1) bytes
    let status ← status? (← lines.head?)
    if StatusCode.isInterim status then response? isEnded turns rest
    else
      let headers := lines.tail.map header
      let (body, isComplete) := body isEnded rest (extent headers)
      return { status, location := headerValue? headers "location", body, isComplete }

/-- A whole response has come, though the connection goes on. -/
def isWhole (bytes : Bytes) : Bool :=
  (response? false (bytes.length + 1) bytes).any (·.wholeBody?.isSome)

end Wire

/-- What the bytes of a connection amount to, if it ended or was given up before it did. -/
def Answer.ofWire (isEnded : Bool) (bytes : Bytes) : Answer :=
  match Wire.response? isEnded (bytes.length + 1) bytes with
  | some r => .response r
  | none => .closed

end DealForm
