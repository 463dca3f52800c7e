import DealForm.Url.Parser

/-!
# URLs relative to others

A text read where a web URL is open. What the text leaves out is taken from that URL; a text with a
scheme of its own stands for itself, unless it names the same scheme and no host.
-/

namespace DealForm.Url

def withPath (base : Url) (start : List (List Char)) (cs : List Char) : Url :=
  let tail := splitTail cs
  withTail { base with path := .segments (segmentsFrom base.scheme start tail.path) } tail

def directory (base : Url) : List (List Char) :=
  match base.path with
  | .segments parts => parts.dropLast
  | .plain _ => []

/-- Reads a text that names no scheme, or the one of the base. -/
def relative? (base : Url) (cs : List Char) : Option Url :=
  match cs with
  | [] => some base.withoutFragment
  | '?' :: _ => some (base.withTail (splitTail cs))
  | '#' :: fragment => some { base with fragment := some (Percent.encode Percent.inFragment fragment) }
  | '/' :: '/' :: place => afterSlashes? base.scheme place
  | a :: rest =>
    if !isSlash true a then some (base.withPath base.directory cs)
    else if rest.head?.any (isSlash true) then
      afterSlashes? base.scheme (rest.dropWhile (isSlash true))
    else some (base.withPath [] cs)

def join? (base : Url) (text : String) : Option Url :=
  let cs := tidy text.toList
  match splitScheme? cs with
  | none => base.relative? cs
  | some (scheme, rest) =>
    let slashes := rest.takeWhile (isSlash true)
    if scheme = base.scheme && slashes.length < 2 then base.relative? rest
    else afterScheme? scheme rest

end DealForm.Url
