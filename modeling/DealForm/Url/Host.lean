import DealForm.Url.DomainName
import DealForm.Url.Percent

/-!
# Hosts

The host of a URL is a name, an address of four bytes, or an address of eight pieces. A name whose
last label is a number must be an address of four bytes, which may be written in several bases and
with fewer parts.
-/

namespace DealForm

inductive Host where
  | name (text : String)
  | ipv4 (address : Nat)
  | ipv6 (pieces : List Nat)
  deriving DecidableEq, Repr

namespace Host

/-! ## Addresses of four bytes -/

def digitIn? (base : Nat) (c : Char) : Option Nat :=
  let value? :=
    if c.isDigit then some (c.toNat - '0'.toNat)
    else if 'a' ≤ c && c ≤ 'f' then some (c.toNat - 'a'.toNat + 10)
    else if 'A' ≤ c && c ≤ 'F' then some (c.toNat - 'A'.toNat + 10)
    else none
  value?.filter (· < base)

def natIn? (base : Nat) (cs : List Char) : Option Nat :=
  cs.foldlM (fun n c ↦ (digitIn? base c).map (n * base + ·)) 0

/-- A part of an address: decimal, octal after a zero, or to the base sixteen after `0x`. -/
def partValue? : List Char → Option Nat
  | [] => none
  | '0' :: 'x' :: cs => natIn? 16 cs
  | '0' :: 'X' :: cs => natIn? 16 cs
  | ['0'] => some 0
  | '0' :: cs => natIn? 8 cs
  | cs => natIn? 10 cs

/-- The parts between the dots, one dot at the end apart. -/
def dottedParts (cs : List Char) : List (List Char) :=
  let parts := Text.splitAt '.' cs
  if parts.getLast? == some [] && 1 < parts.length then parts.dropLast else parts

/-- The last label is a number, so that the host must be an address. -/
def endsInNumber (cs : List Char) : Bool :=
  match (dottedParts cs).getLast? with
  | none => false
  | some last => (!last.isEmpty && last.all Char.isDigit) || (partValue? last).isSome

/-- The address of one to four parts; the last one fills the bytes that are left. -/
def ipv4? (cs : List Char) : Option Nat := do
  let numbers ← (dottedParts cs).mapM partValue?
  let last ← numbers.getLast?
  let firsts := numbers.dropLast
  if 3 < firsts.length || firsts.any (255 < ·) || Nat.pow 256 (4 - firsts.length) ≤ last then none
  else some (firsts.foldr (fun n rest ↦ n * 0x1000000 + rest / 0x100) 0 + last)

/-! ## Addresses of eight pieces -/

def hexPiece? (cs : List Char) : Option Nat :=
  if cs.isEmpty || 4 < cs.length then none else natIn? 16 cs

def byte? (cs : List Char) : Option Nat := do
  if cs.isEmpty || (1 < cs.length && cs.head? == some '0') then none
  else (natIn? 10 cs).filter (· < 256)

def bytesAsPieces? (cs : List Char) : Option (List Nat) := do
  match ← (Text.splitAt '.' cs).mapM byte? with
  | [a, b, c, d] => some [a * 256 + b, c * 256 + d]
  | _ => none

/-- Pieces between colons; the last part may be written as four bytes. -/
def pieces? : List (List Char) → Option (List Nat)
  | [] => some []
  | [part] => if part.contains '.' then bytesAsPieces? part else (hexPiece? part).map ([·])
  | part :: parts => do
    let piece ← hexPiece? part
    let rest ← pieces? parts
    return piece :: rest

def splitDouble : List Char → List Char × Option (List Char)
  | ':' :: ':' :: cs => ([], some cs)
  | c :: cs => let (before, after) := splitDouble cs; (c :: before, after)
  | [] => ([], none)

def sidePieces? (cs : List Char) : Option (List Nat) :=
  if cs.isEmpty then some [] else pieces? (Text.splitAt ':' cs)

/-- The eight pieces of an address; a double colon stands for one or more zeros. -/
def ipv6? (cs : List Char) : Option (List Nat) := do
  match splitDouble cs with
  | (all, none) =>
    let pieces ← pieces? (Text.splitAt ':' all)
    if pieces.length = 8 then some pieces else none
  | (before, some after) =>
    if before.contains '.' then none
    else
      let first ← sidePieces? before
      let last ← sidePieces? after
      if first.length + last.length < 8 then
        some (first ++ List.replicate (8 - first.length - last.length) 0 ++ last)
      else none

def zeroRun (pieces : List Nat) : Nat :=
  (pieces.takeWhile (· == 0)).length

/-- Where the longest run of zeros starts, and its length; the first one of several. -/
def longestRun : Nat → List Nat → Nat × Nat
  | at₀, [] => (at₀, 0)
  | at₀, p :: ps =>
    let rest := longestRun (at₀ + 1) ps
    let run := zeroRun (p :: ps)
    if rest.2 ≤ run then (at₀, run) else rest

def pieceChars (n : Nat) : List Char :=
  Text.hexNat n

def colonSeparated (pieces : List Nat) : List Char :=
  List.intercalate [':'] (pieces.map pieceChars)

/-- The pieces to the base sixteen; the longest run of two or more zeros is left out. -/
def ipv6Chars (pieces : List Nat) : List Char :=
  let (start, length) := longestRun 0 pieces
  if length < 2 then colonSeparated pieces
  else
    colonSeparated (pieces.take start) ++ [':', ':'] ++ colonSeparated (pieces.drop (start + length))

/-! ## Reading and writing hosts -/

def toChars : Host → List Char
  | name text => text.toList
  | ipv4 a =>
    List.intercalate ['.']
      ([a / 0x1000000 % 0x100, a / 0x10000 % 0x100, a / 0x100 % 0x100, a % 0x100].map (Nat.toDigits 10))
  | ipv6 pieces => '[' :: ipv6Chars pieces ++ [']']

def isForbidden (c : Char) : Bool :=
  ['\x00', '\t', '\n', '\r', ' ', '#', '/', ':', '<', '>', '?', '@', '[', '\\', ']', '^', '|'].contains c

def bracketed? (cs : List Char) : Option Host :=
  if cs.getLast? == some ']' then (ipv6? cs.dropLast).map .ipv6 else none

def parse? : List Char → Option Host
  | '[' :: cs => bracketed? cs
  | cs => do
    let name ← (Utf8.decodeChars (Percent.decode (Utf8.encodeChars cs))).toOption
    let ascii ← DomainName.toAscii? name
    if ascii.isEmpty then none
    else if endsInNumber ascii then (ipv4? ascii).map .ipv4
    else some (.name (String.ofList ascii))

/-- The host of any other scheme: its name is kept, controls are encoded. -/
def parseFree? : List Char → Option Host
  | '[' :: cs => bracketed? cs
  | cs =>
    if cs.any isForbidden then none
    else some (.name (String.ofList (Percent.encode Percent.isControl cs)))

end Host

end DealForm
