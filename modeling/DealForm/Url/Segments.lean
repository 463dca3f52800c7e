import DealForm.Text.Split
import DealForm.Url.Percent

/-!
# Segments of paths

The path of a URL is built segment by segment. One dot stands for no segment, two dots take the last
one back; a dot may be percent-encoded. The letter of a drive is never taken back.
-/

namespace DealForm.Url

def isSlash (special : Bool) (c : Char) : Bool :=
  c == '/' || (special && c == '\\')

/-- The percent-encoded dot counts as a dot. -/
def unescapeDots : List Char → List Char
  | '%' :: '2' :: 'e' :: cs => '.' :: unescapeDots cs
  | '%' :: '2' :: 'E' :: cs => '.' :: unescapeDots cs
  | c :: cs => c :: unescapeDots cs
  | [] => []

def isSingleDot (segment : List Char) : Bool :=
  unescapeDots segment == ['.']

def isDoubleDot (segment : List Char) : Bool :=
  unescapeDots segment == ['.', '.']

/-- The letter of a drive, with a colon or with a bar in its place. -/
def isDrive : List Char → Bool
  | [letter, sign] => letter.isAlpha && (sign == ':' || sign == '|')
  | _ => false

def follow (path : List (List Char)) (segment : List Char) : List (List Char) :=
  if isDoubleDot segment then
    if path.getLast?.any isDrive then path else path.dropLast
  else if isSingleDot segment then path
  else path ++ [Percent.encode Percent.inPath segment]

/-- Follows segments from a path. Dots at the end leave an empty segment. -/
def followAll (path : List (List Char)) : List (List Char) → List (List Char)
  | [] => path
  | [last] =>
    if isDoubleDot last || isSingleDot last then follow path last ++ [[]] else follow path last
  | segment :: rest => followAll (follow path segment) rest

def splitSegments (special : Bool) (cs : List Char) : List (List Char) :=
  match cs with
  | [] => [[]]
  | c :: rest => Text.splitWhen (isSlash special) (if isSlash special c then rest else cs)

end DealForm.Url
