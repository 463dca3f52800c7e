import DealForm.Text.Utf8

/-!
# Multipart forms

The body of a form that carries a file: its parts, each with a name, set apart by a boundary. In
the name of a file, quotes, backslashes and line ends are written after a backslash.
-/

namespace DealForm.Multipart

structure Part where
  name : String
  fileName : Option String := none
  content : Bytes
  deriving DecidableEq, Repr

def escapeChar (c : Char) : List Char :=
  if c = '\\' || c = '"' || c = '\r' || c = '\n' then ['\\', c] else [c]

/-- The name of a file between its quotes. -/
def escape (name : String) : String :=
  String.ofList (name.toList.flatMap escapeChar)

namespace Part

def disposition (p : Part) : String :=
  "Content-Disposition: form-data; name=\"" ++ p.name ++ "\"" ++
    (p.fileName.map fun name ↦ "; filename=\"" ++ escape name ++ "\"").getD ""

def bytes (boundary : String) (p : Part) : Bytes :=
  Utf8.encode ("--" ++ boundary ++ "\r\n" ++ p.disposition ++ "\r\n\r\n") ++ p.content ++
    Utf8.encode "\r\n"

end Part

def body (boundary : String) (parts : List Part) : Bytes :=
  parts.flatMap (Part.bytes boundary) ++ Utf8.encode ("--" ++ boundary ++ "--\r\n")

def contentType (boundary : String) : String :=
  "multipart/form-data; boundary=" ++ boundary

end DealForm.Multipart
