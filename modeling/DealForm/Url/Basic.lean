import DealForm.Url.Host

/-!
# URLs

A URL as its parts. The parts are kept as they are written: encoded, with dots resolved and the
default port left out.
-/

namespace DealForm

inductive UrlPath where
  /-- The segments after each slash; none is the empty path. -/
  | segments (parts : List (List Char))
  /-- A path without structure, for URLs that name no place. -/
  | plain (text : List Char)
  deriving DecidableEq, Repr

structure Url where
  scheme : List Char
  username : List Char := []
  password : List Char := []
  host : Option Host := none
  port : Option Nat := none
  path : UrlPath
  query : Option (List Char) := none
  fragment : Option (List Char) := none
  deriving DecidableEq, Repr

namespace Url

def defaultPort? (scheme : List Char) : Option Nat :=
  if scheme = "http".toList || scheme = "ws".toList then some 80
  else if scheme = "https".toList || scheme = "wss".toList then some 443
  else if scheme = "ftp".toList then some 21
  else none

def isFile (scheme : List Char) : Bool :=
  scheme == "file".toList

def isSpecial (scheme : List Char) : Bool :=
  (defaultPort? scheme).isSome || isFile scheme

def effectivePort? (u : Url) : Option Nat :=
  u.port.or (defaultPort? u.scheme)

def pathChars (u : Url) : List Char :=
  match u.path with
  | .segments parts => parts.flatMap ('/' :: ·)
  | .plain text => text

def authorityChars (u : Url) : List Char :=
  (u.host.map Host.toChars).getD [] ++ (u.port.map fun n ↦ ':' :: Nat.toDigits 10 n).getD []

def userChars (u : Url) : List Char :=
  if u.username.isEmpty && u.password.isEmpty then []
  else u.username ++ (if u.password.isEmpty then [] else ':' :: u.password) ++ ['@']

def queryChars (u : Url) : List Char :=
  (u.query.map ('?' :: ·)).getD []

def fragmentChars (u : Url) : List Char :=
  (u.fragment.map ('#' :: ·)).getD []

/-- What stands between the scheme and the path. A path that starts with two slashes is kept apart
from a missing host by a dot. -/
def placeChars (u : Url) : List Char :=
  match u.host with
  | some _ => '/' :: '/' :: u.userChars ++ u.authorityChars
  | none =>
    match u.path with
    | .segments ([] :: _ :: _) => ['/', '.']
    | _ => []

def toChars (u : Url) : List Char :=
  u.scheme ++ ':' :: u.placeChars ++ u.pathChars ++ u.queryChars ++ u.fragmentChars

def text (u : Url) : String :=
  String.ofList u.toChars

/-- What a request to the URL asks for: the path and the query. -/
def target (u : Url) : String :=
  String.ofList (u.pathChars ++ u.queryChars)

def withoutFragment (u : Url) : Url :=
  { u with fragment := none }

def withoutUser (u : Url) : Url :=
  { u with username := [], password := [] }

def isWeb (u : Url) : Bool :=
  u.scheme == "http".toList || u.scheme == "https".toList

end Url

end DealForm
