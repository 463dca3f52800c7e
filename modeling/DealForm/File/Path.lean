import DealForm.Text.Utf8

/-!
# Paths

A path is any sequence of bytes. It is cut at its slashes; empty parts and single dots name
nothing, except for a dot in front of a relative path. A path can be joined to another, and has a
parent and a file name where its last part names something.
-/

namespace DealForm

structure Path where
  bytes : Bytes
  deriving DecidableEq, Repr, Inhabited

abbrev Name := Bytes

namespace Path

def slash : UInt8 := 47

def dot : Name := [46]

def dotDot : Name := [46, 46]

def ofString (s : String) : Path :=
  ⟨Utf8.encode s⟩

/-- The path as text, with U+FFFD for what is no UTF-8. -/
def display (p : Path) : String :=
  Utf8.decodeLossy p.bytes

def isAbsolute (p : Path) : Bool :=
  p.bytes.head? == some slash

def splitSlashes : Bytes → List Bytes
  | [] => [[]]
  | b :: bs =>
    if b == slash then [] :: splitSlashes bs
    else
      match splitSlashes bs with
      | part :: parts => (b :: part) :: parts
      | [] => [[b]]

def joinSlashes (parts : List Bytes) : Bytes :=
  List.intercalate [slash] parts

def names (p : Path) : List Name :=
  (splitSlashes p.bytes).filter (!·.isEmpty)

def endsInSlash (p : Path) : Bool :=
  p.bytes.getLast? == some slash

/-- A path below a directory; an absolute one stands alone. -/
def join (base p : Path) : Path :=
  if p.isAbsolute then p
  else if base.bytes.isEmpty || base.endsInSlash then ⟨base.bytes ++ p.bytes⟩
  else ⟨base.bytes ++ slash :: p.bytes⟩

def isIdle (part : Bytes) : Bool :=
  part.isEmpty || part == dot

/-- The parts after the leading slash, the last one first, without idle ones at the end. A dot in
front of a relative path is not idle. -/
def reversedParts (p : Path) : List Bytes :=
  if p.isAbsolute then
    (splitSlashes (p.bytes.drop 1)).reverse.dropWhile isIdle
  else
    match splitSlashes p.bytes with
    | [] => []
    | first :: rest =>
      let tail := rest.reverse.dropWhile isIdle
      if tail.isEmpty && first.isEmpty then [] else tail ++ [first]

def dropIdle (isAbsolute : Bool) (reversed : List Bytes) : List Bytes :=
  if isAbsolute then reversed.dropWhile isIdle
  else
    match reversed.reverse with
    | [] => []
    | first :: rest => rest.reverse.dropWhile isIdle ++ [first]

def parent? (p : Path) : Option Path :=
  match p.reversedParts with
  | [] => none
  | _ :: before =>
    let parts := joinSlashes (dropIdle p.isAbsolute before).reverse
    some ⟨if p.isAbsolute then slash :: parts else parts⟩

def fileName? (p : Path) : Option Name :=
  match p.reversedParts with
  | [] => none
  | last :: _ => if last == dot || last == dotDot then none else some last

end Path

end DealForm
