import DealForm.Text.Split

/-!
# Tables of code points

Large tables are written as texts. Their rows stand between blanks; code points are numbers to the
base sixteen. A range is its first and its last code point with a hyphen between them. A row may
hold every second code point only, which is written `/2`, and may go on with an equals sign and the
code points that belong to its first one, joined by plus signs.
-/

namespace DealForm

namespace Text

def inRanges (ranges : List (Nat × Nat)) (code : Nat) : Bool :=
  ranges.any fun r ↦ r.1 ≤ code && code ≤ r.2

end Text

/-- Code points `first, first + step, …, last` and the codes that belong to the first one. Those of
each next one lie as much further on as it does. -/
structure CodeRow where
  first : Nat
  last : Nat
  step : Nat
  codes : List Nat
  deriving DecidableEq, Repr

namespace CodeRow

def holds (r : CodeRow) (code : Nat) : Bool :=
  r.first ≤ code && code ≤ r.last && (code - r.first) % r.step == 0

def image (r : CodeRow) (code : Nat) : List Nat :=
  r.codes.map (· + (code - r.first))

end CodeRow

namespace CodeTable

def number (cs : List Char) : Nat :=
  cs.foldl (fun n c ↦
    16 * n + if c.isDigit then c.toNat - '0'.toNat else c.toNat - 'A'.toNat + 10) 0

/-- What stands before and after a character; if it is missing, nothing stands after it. -/
def halves (separator : Char) (cs : List Char) : List Char × List Char :=
  (cs.takeWhile (· != separator), (cs.dropWhile (· != separator)).drop 1)

def range (cs : List Char) : Nat × Nat :=
  let (first, last) := halves '-' cs
  (number first, if last.isEmpty then number first else number last)

def row (cs : List Char) : CodeRow :=
  let (place, codes) := halves '=' cs
  let (bounds, step) := halves '/' place
  let (first, last) := range bounds
  { first, last, step := if step.isEmpty then 1 else number step
    codes := if codes.isEmpty then [] else (Text.splitAt '+' codes).map number }

def words (text : String) : List (List Char) :=
  (Text.splitWhen (fun c ↦ c == ' ' || c == '\n') text.toList).filter (!·.isEmpty)

def ranges (text : String) : List (Nat × Nat) :=
  (words text).map range

def rows (text : String) : List CodeRow :=
  (words text).map row

end CodeTable

end DealForm
