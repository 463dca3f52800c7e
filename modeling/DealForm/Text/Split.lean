/-!
# Splitting texts

A text cut at the characters that separate its parts. There is one part more than separators, and
parts may be empty.
-/

namespace DealForm.Text

/-- Puts a character in front of parts: into the first one, or before a new first one. -/
def putBefore (separates : Char → Bool) (c : Char) : List (List Char) → List (List Char)
  | [] => [[c]]
  | part :: parts => if separates c then [] :: part :: parts else (c :: part) :: parts

def splitWhen (separates : Char → Bool) (cs : List Char) : List (List Char) :=
  cs.foldr (putBefore separates) [[]]

def splitAt (separator : Char) : List Char → List (List Char) :=
  splitWhen (· == separator)

end DealForm.Text
