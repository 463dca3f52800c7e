import DealForm.Url.Parser

/-!
# Addresses of requests

Which URLs can be the address of a request. What stands before the path may hold only some
characters, at most one colon before a port, and one pair of brackets; a URL without a host must
look like that as a whole.
-/

namespace DealForm

structure PlaceScan where
  /-- The colons since the last user or bracket. -/
  colons : Nat := 0
  isOpened : Bool := false
  isClosed : Bool := false
  /-- A percent sign stands behind the last user or bracket. -/
  isEscaped : Bool := false
  endsUser : Bool := false

namespace PlaceScan

def isPlain (c : Char) : Bool :=
  c.isAlphanum ||
    ['!', '$', '&', '\'', '(', ')', '*', '+', ',', '-', '.', ';', '=', '_', '~'].contains c

def next? (s : PlaceScan) (c : Char) : Option PlaceScan :=
  let s := { s with endsUser := c == '@' }
  if c = ':' then if s.colons < 8 then some { s with colons := s.colons + 1 } else none
  else if c = '@' then some { s with colons := 0, isEscaped := false }
  else if c = '%' then some { s with isEscaped := true }
  else if c = '[' then
    if s.isEscaped || s.isOpened then none else some { s with isOpened := true }
  else if c = ']' then
    if s.isOpened && !s.isClosed then
      some { s with isClosed := true, colons := 0, isEscaped := false }
    else none
  else if isPlain c then some s
  else none

def mayEnd (s : PlaceScan) : Bool :=
  s.isOpened == s.isClosed && s.colons ≤ 1 && !s.endsUser && !s.isEscaped

/-- The text names a host, as far as its characters tell. -/
def accepts (cs : List Char) : Bool :=
  (cs.foldlM next? {}).any mayEnd

end PlaceScan

namespace Url

def hasHost (u : Url) : Bool :=
  match u.host with
  | none => false
  | some (.name text) => !text.isEmpty
  | some _ => true

def maxAddress : Nat := 65534

def maxScheme : Nat := 64

def isAddress (u : Url) : Bool :=
  u.toChars.length ≤ maxAddress &&
    match u.host with
    | some _ =>
      let place := u.userChars ++ u.authorityChars
      u.scheme.length ≤ maxScheme && !place.isEmpty && PlaceScan.accepts place
    | none => PlaceScan.accepts u.toChars

/-- The URL as a request to it names it: without its fragment, and with a path. -/
def asAddress (u : Url) : Url :=
  let path := if u.host.isSome && u.pathChars.isEmpty then .segments [[]] else u.path
  { u with path, fragment := none }

def sharesPlace (u v : Url) : Bool :=
  u.host == v.host && u.effectivePort? == v.effectivePort?

end Url

end DealForm
