import DealForm.Json.Decoder

/-!
# Refusals that state a position

A field may be refused in words of its own. Where these words already end with a position, the
fault is reported at that position and the words are kept without it.
-/

namespace DealForm.Json

def splitLast (pattern : List Char) : List Char → Option (List Char × List Char)
  | [] => none
  | c :: cs =>
    match splitLast pattern cs with
    | some (before, after) => some (c :: before, after)
    | none =>
      if pattern.isPrefixOf (c :: cs) then some ([], (c :: cs).drop pattern.length) else none

def count? (ds : List Char) : Option Nat :=
  if ds.isEmpty || !ds.all Char.isDigit then none
  else
    let n := ds.foldl (fun n c ↦ n * 10 + (c.toNat - '0'.toNat)) 0
    if n ≤ 0xFFFFFFFFFFFFFFFF then some n else none

/-- Splits words that end with a line and a column from these. -/
def statedPosition? (words : List Char) : Option (List Char × Position) := do
  let (before, after) ← splitLast " at line ".toList words
  let column := " column ".toList
  let rest := after.dropWhile Char.isDigit
  if column.isPrefixOf rest then
    let line ← count? (after.takeWhile Char.isDigit)
    let column ← count? (rest.drop column.length)
    some (before, ⟨line, column⟩)
  else none

/-- The fault of a field that is refused in words of its own; a line zero is no position. -/
def refusal (message : String) (rest : List Char) : Fault :=
  match statedPosition? message.toList with
  | none => ⟨.mismatch (.refused message), .pending rest⟩
  | some (words, position) =>
    let cause := Cause.mismatch (.refused (String.ofList words))
    if position.line = 0 then ⟨cause, .pending rest⟩ else ⟨cause, .stated position⟩

end DealForm.Json
