import DealForm.Url.DomainName.Direction
import DealForm.Url.DomainName.Joining
import DealForm.Url.DomainName.Mapping
import DealForm.Url.Punycode

/-!
# Domain names

The name of a host in ASCII. Its characters are first replaced by those they stand for and composed;
then each label between dots is checked, and one with characters outside ASCII is written with a
sign in front and its characters encoded. A label that comes with that sign must hold what this
would have written.
-/

namespace DealForm.DomainName

def isForbidden (code : Nat) : Bool :=
  code ≤ 0x20 || code == 0x7F ||
    (['#', '%', '/', ':', '<', '>', '?', '@', '[', '\\', ']', '^', '|'].map Char.toNat).contains code

def isAscii (codes : List Nat) : Bool :=
  codes.all (· < 0x80)

def normalize? (cs : List Char) : Option (List Nat) := do
  let codes := (← cs.mapM imageOfChar?).flatten
  let codes := if isAscii codes then codes else compose codes
  if codes.any isForbidden then none else some codes

def labels (codes : List Nat) : List (List Char) :=
  Text.splitAt '.' (codes.map Char.ofNat)

/-- What an encoded label starts with. -/
def sign : List Char := "xn--".toList

/-- The longest labels outside ASCII that are encoded, and the longest codes that are read. -/
def maxLabel : Nat := 1000

def maxEncoded : Nat := 2000

/-- What an encoded label holds, if it holds characters outside ASCII and is in normal form. -/
def decodeLabel? (cs : List Char) : Option (List Nat) := do
  if maxEncoded < cs.length || cs.isEmpty || cs.getLast? == some '-' then none
  else
    let codes ← Punycode.decode? cs
    if normalize? (codes.map Char.ofNat) == some codes && codes.length ≤ maxLabel then some codes
    else none

structure Label where
  codes : List Nat
  ascii : List Char
  deriving DecidableEq, Repr

namespace Label

/-- The label may stand in a name: it starts with no mark, and its joiners are in place. -/
def isSound (l : Label) : Bool :=
  !l.codes.head?.any isMark && joinersFit [] l.codes

def ofChars? (cs : List Char) : Option Label := do
  let codes := cs.map Char.toNat
  let label ←
    if sign.isPrefixOf cs then
      if isAscii codes then (decodeLabel? (cs.drop sign.length)).map (⟨·, cs⟩) else none
    else if isAscii codes then some ⟨codes, cs⟩
    else if maxLabel < codes.length then none
    else some ⟨codes, sign ++ Punycode.encode cs⟩
  if isAscii label.codes || label.isSound then some label else none

end Label

def toAscii? (cs : List Char) : Option (List Char) := do
  let labels ← (labels (← normalize? cs)).mapM Label.ofChars?
  if directionsFit (labels.map Label.codes) then
    some (List.intercalate ['.'] (labels.map Label.ascii))
  else none

end DealForm.DomainName
