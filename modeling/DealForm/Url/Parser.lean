import DealForm.Url.Basic
import DealForm.Url.Segments

/-!
# Reading URLs

A text is read as a URL after the blanks and controls at its ends and the tabs and line ends inside
it are dropped. In the schemes that have hosts a backslash counts as a slash, and missing slashes
before the host are supplied.
-/

namespace DealForm.Url

/-- The text without blanks and controls at its ends, and without tabs and line ends. -/
def tidy (cs : List Char) : List Char :=
  let isEdge (c : Char) : Bool := c.toNat ≤ 0x20
  let trimmed := ((cs.dropWhile isEdge).reverse.dropWhile isEdge).reverse
  trimmed.filter fun c ↦ !(['\t', '\n', '\r'].contains c)

def isSchemeChar (c : Char) : Bool :=
  c.isAlphanum || ['+', '-', '.'].contains c

def splitScheme? (cs : List Char) : Option (List Char × List Char) :=
  match cs with
  | c :: _ =>
    if !c.isAlpha then none
    else
      match cs.dropWhile isSchemeChar with
      | ':' :: rest => some ((cs.takeWhile isSchemeChar).map Char.toLower, rest)
      | _ => none
  | [] => none

def endsAuthority (special : Bool) (c : Char) : Bool :=
  isSlash special c || c == '?' || c == '#'

/-! ## Paths, queries and fragments -/

structure Tail where
  path : List Char
  query : Option (List Char)
  fragment : Option (List Char)

def splitTail (cs : List Char) : Tail :=
  let isHash (c : Char) : Bool := c == '#'
  let isMark (c : Char) : Bool := c == '?'
  let front := cs.takeWhile (!isHash ·)
  let after (rest : List Char) : Option (List Char) := rest.head?.map fun _ ↦ rest.drop 1
  { path := front.takeWhile (!isMark ·)
    query := after (front.dropWhile (!isMark ·))
    fragment := after (cs.dropWhile (!isHash ·)) }

def withTail (u : Url) (t : Tail) : Url :=
  let refused := if isSpecial u.scheme then Percent.inSpecialQuery else Percent.inQuery
  { u with
    query := t.query.map (Percent.encode refused)
    fragment := t.fragment.map (Percent.encode Percent.inFragment) }

def segmentsFrom (scheme : List Char) (start : List (List Char)) (path : List Char) :
    List (List Char) :=
  followAll start (splitSegments (isSpecial scheme) path)

def segmentsAfterHost (scheme path : List Char) : List (List Char) :=
  if path.isEmpty && !isSpecial scheme then [] else segmentsFrom scheme [] path

/-! ## Hosts -/

/-- What stands before the host, if an at sign ends it, and the rest. -/
def splitUser (special : Bool) (cs : List Char) : Option (List Char) × List Char :=
  let authority := cs.takeWhile (!endsAuthority special ·)
  let reversed := authority.reverse
  if authority.contains '@' then
    let host := (reversed.takeWhile (· != '@')).reverse
    let user := ((reversed.dropWhile (· != '@')).drop 1).reverse
    (some user, host ++ cs.drop authority.length)
  else (none, cs)

def splitHost (special : Bool) : Bool → List Char → List Char × List Char
  | _, [] => ([], [])
  | inBrackets, c :: cs =>
    if endsAuthority special c || (c == ':' && !inBrackets) then ([], c :: cs)
    else
      let inBrackets := if c = '[' then true else if c = ']' then false else inBrackets
      let (host, rest) := splitHost special inBrackets cs
      (c :: host, rest)

def parsePort? (cs : List Char) : Option (Option Nat × List Char) :=
  let digits := cs.takeWhile Char.isDigit
  let rest := cs.dropWhile Char.isDigit
  let value := digits.foldl (fun n c ↦ n * 10 + (c.toNat - '0'.toNat)) 0
  if 65535 < value || rest.head?.any (!endsAuthority true ·) then none
  else if digits.isEmpty then some (none, rest)
  else some (some value, rest)

def splitPassword (user : List Char) : List Char × List Char :=
  (user.takeWhile (· != ':'), (user.dropWhile (· != ':')).drop 1)

/-- Reads a host and what follows it. Only outside the schemes that have hosts may the host be
missing, and then there is neither a user nor a port. -/
def afterSlashes? (scheme cs : List Char) : Option Url := do
  let special := isSpecial scheme
  let (user, place) := splitUser special cs
  let (username, password) := splitPassword (user.getD [])
  let (hostText, rest) := splitHost special false place
  let isUserAlone := user == some [] && place.head?.any (endsAuthority special)
  let needsHost := special || !username.isEmpty || !password.isEmpty || rest.head? == some ':'
  if isUserAlone || (hostText.isEmpty && needsHost) then none
  else
    let host ← if special then Host.parse? hostText else Host.parseFree? hostText
    let (port, rest) ← match rest with
      | ':' :: rest => parsePort? rest
      | rest => some (none, rest)
    let tail := splitTail rest
    return withTail
      { scheme
        username := Percent.encode Percent.inUserInfo username
        password := Percent.encode Percent.inUserInfo password
        host := some host
        port := port.filter (some · != defaultPort? scheme)
        path := .segments (segmentsAfterHost scheme tail.path) } tail

/-! ## Files -/

def noHost : Host := .name ""

/-- The host of a file, which may be missing; the own host counts as none. -/
def fileHost? (cs : List Char) : Option Host := do
  if cs.isEmpty then some noHost
  else
    let host ← Host.parse? cs
    some (if host == .name "localhost" then noHost else host)

/-- The segments of a file's path. A drive that comes first is written with a colon; empty segments
at the start are dropped. -/
def fileSegments (segments : List (List Char)) : List (List Char) :=
  let path :=
    match segments with
    | [] => []
    | first :: rest =>
      if isDrive first then followAll [first.take 1 ++ [':']] rest else followAll [] segments
  let kept := path.dropWhile List.isEmpty
  if kept.isEmpty then [[]] else kept

/-- A file's URL. A path that starts with a drive needs no host. -/
def ofFile (scheme : List Char) (host : Host) (cs : List Char) : Url :=
  let tail := splitTail cs
  let segments := Text.splitWhen (isSlash true) tail.path
  withTail
    { scheme
      host := some (if segments.head?.any isDrive then noHost else host)
      path := .segments (fileSegments segments) } tail

/-- Reads a file's URL. After two slashes stands its host, unless a drive stands there. -/
def file? (scheme cs : List Char) : Option Url := do
  match cs with
  | a :: b :: place =>
    if isSlash true a && isSlash true b then
      let hostText := place.takeWhile (!endsAuthority true ·)
      let rest := place.drop hostText.length
      if isDrive hostText then return ofFile scheme noHost place
      else
        let host ← fileHost? hostText
        let rest := if host != noHost && rest.head?.any (isSlash true) then rest.drop 1 else rest
        return ofFile scheme host rest
    else return ofFile scheme noHost cs
  | _ => return ofFile scheme noHost cs

/-! ## Whole URLs -/

def afterScheme? (scheme cs : List Char) : Option Url :=
  if isFile scheme then file? scheme cs
  else if isSpecial scheme then afterSlashes? scheme (cs.dropWhile (isSlash true))
  else
    match cs with
    | '/' :: '/' :: rest => afterSlashes? scheme rest
    | '/' :: rest =>
      let tail := splitTail rest
      let segments := Text.splitWhen (isSlash false) tail.path
      some (withTail { scheme, path := .segments (followAll [] segments) } tail)
    | rest =>
      let tail := splitTail rest
      some (withTail { scheme, path := .plain (Percent.encode Percent.isControl tail.path) } tail)

def parse? (text : String) : Option Url := do
  let (scheme, rest) ← splitScheme? (tidy text.toList)
  afterScheme? scheme rest

end DealForm.Url
