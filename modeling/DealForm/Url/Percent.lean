import DealForm.Text.Utf8
import DealForm.Text.Shown

/-!
# Percent encoding

Characters that may not stand in a part of a URL are written as their bytes, each as a percent sign
and two digits of base sixteen. Which characters these are depends on the part.
-/

namespace DealForm.Percent

def upperHexDigit (n : Nat) : Char :=
  if n < 10 then Char.ofNat ('0'.toNat + n) else Char.ofNat ('A'.toNat + (n - 10))

def encodeByte (b : UInt8) : List Char :=
  ['%', upperHexDigit (b.toNat / 16), upperHexDigit (b.toNat % 16)]

/-- The character as it stands in a part where `refused` characters are encoded. -/
def encodeChar (refused : Char → Bool) (c : Char) : List Char :=
  if refused c then (Utf8.encodeChar c).flatMap encodeByte else [c]

def encode (refused : Char → Bool) (s : List Char) : List Char :=
  s.flatMap (encodeChar refused)

def digitValue? (b : UInt8) : Option Nat :=
  if 48 ≤ b && b ≤ 57 then some (b.toNat - 48)
  else if 65 ≤ b && b ≤ 70 then some (b.toNat - 55)
  else if 97 ≤ b && b ≤ 102 then some (b.toNat - 87)
  else none

def decode : Bytes → Bytes
  | [] => []
  | p :: a :: b :: rest =>
    if p = 37 then
      match digitValue? a, digitValue? b with
      | some x, some y => UInt8.ofNat (x * 16 + y) :: decode rest
      | _, _ => p :: decode (a :: b :: rest)
    else p :: decode (a :: b :: rest)
  | p :: rest => p :: decode rest

/-- Controls and everything outside ASCII. -/
def isControl (c : Char) : Bool :=
  c.toNat < 0x20 || 0x7E < c.toNat

def inFragment (c : Char) : Bool :=
  isControl c || [' ', '"', '<', '>', Char.ofNat 0x60].contains c

def inPath (c : Char) : Bool :=
  inFragment c || ['#', '?', '{', '}'].contains c

def inQuery (c : Char) : Bool :=
  isControl c || [' ', '"', '#', '<', '>'].contains c

/-- The queries of the schemes that have hosts also encode the apostrophe. -/
def inSpecialQuery (c : Char) : Bool :=
  inQuery c || c == '\''

def inUserInfo (c : Char) : Bool :=
  inPath c || ['/', ':', ';', '=', '@', '[', '\\', ']', '^', '|'].contains c

end DealForm.Percent
