import DealForm.Json.Scanner

/-!
# Reading JSON values

A value is read with a budget of containers that may still be opened inside each other. The loops
over items and members serve every reader: they take the reader of one item, or of what follows
one key, as an argument.
-/

namespace DealForm.Json

/-- Reads the items of an array after the first, at most `turns`. -/
def itemsAfter {α : Type} (item : Reader α) : Nat → Reader (List α)
  | 0, _ => .error (.stop .endOfList [])
  | turns + 1, s =>
    match skipBlanks s with
    | ']' :: rest => .ok ([], rest)
    | ',' :: rest =>
      match skipBlanks rest with
      | ']' :: rest => .error (.peek .trailingComma (']' :: rest))
      | [] => .error (.peek .endOfValue [])
      | rest => do
        let (a, rest) ← item rest
        let (as, rest) ← itemsAfter item turns rest
        .ok (a :: as, rest)
    | [] => .error (.peek .endOfList [])
    | rest => .error (.peek .expectedListEnd rest)

def items {α : Type} (item : Reader α) : Reader (List α) := fun s ↦
  match skipBlanks s with
  | ']' :: rest => .ok ([], rest)
  | [] => .error (.peek .endOfList [])
  | rest => do
    let (a, rest) ← item rest
    let (as, rest) ← itemsAfter item (rest.length + 1) rest
    .ok (a :: as, rest)

def colon (s : List Char) : Except Fault (List Char) :=
  match skipBlanks s with
  | ':' :: rest => .ok rest
  | [] => .error (.peek .endOfObject [])
  | rest => .error (.peek .expectedColon rest)

/-- Reads the members of an object after the first, at most `turns`. What follows a key is read by
`member`, which also carries a state along. -/
def membersAfter {σ : Type} (member : σ → String → Reader σ) : Nat → σ → Reader σ
  | 0, _, _ => .error (.stop .endOfObject [])
  | turns + 1, state, s =>
    match skipBlanks s with
    | '}' :: rest => .ok (state, rest)
    | ',' :: rest =>
      match skipBlanks rest with
      | '"' :: rest => do
        let (key, rest) ← stringLiteral rest
        let (state, rest) ← member state key rest
        membersAfter member turns state rest
      | '}' :: rest => .error (.peek .trailingComma ('}' :: rest))
      | [] => .error (.peek .endOfValue [])
      | rest => .error (.peek .keyNotString rest)
    | [] => .error (.peek .endOfObject [])
    | rest => .error (.peek .expectedObjectEnd rest)

def members {σ : Type} (member : σ → String → Reader σ) (state : σ) : Reader σ := fun s ↦
  match skipBlanks s with
  | '}' :: rest => .ok (state, rest)
  | '"' :: rest => do
    let (key, rest) ← stringLiteral rest
    let (state, rest) ← member state key rest
    membersAfter member (rest.length + 1) state rest
  | [] => .error (.peek .endOfObject [])
  | rest => .error (.peek .keyNotString rest)

def anyMember (value : Reader Json) (es : Entries) (key : String) : Reader Entries := fun s ↦ do
  let rest ← colon s
  let (v, rest) ← value rest
  .ok (Entries.insert key v es, rest)

/-- Reads a value that is neither an array nor an object, from its first character on. -/
def scalar : Reader Json
  | [] => .error (.peek .endOfValue [])
  | 'n' :: s => do
    let rest ← word ['u', 'l', 'l'] s
    .ok (.null, rest)
  | 't' :: s => do
    let rest ← word ['r', 'u', 'e'] s
    .ok (.bool true, rest)
  | 'f' :: s => do
    let rest ← word ['a', 'l', 's', 'e'] s
    .ok (.bool false, rest)
  | '"' :: s => do
    let (t, rest) ← stringLiteral s
    .ok (.string t, rest)
  | '-' :: s => do
    let (n, rest) ← numberLiteral true s
    .ok (.number n, rest)
  | c :: s =>
    if c.isDigit then do
      let (n, rest) ← numberLiteral false (c :: s)
      .ok (.number n, rest)
    else .error (.peek .expectedValue (c :: s))

/-- Reads a value inside which at most `budget` containers are open at once. -/
def value : Nat → Reader Json
  | budget, s =>
    match skipBlanks s with
    | '[' :: rest =>
      match budget with
      | 0 => .error (.peek .tooDeep ('[' :: rest))
      | budget + 1 => do
        let (vs, rest) ← items (value budget) rest
        .ok (.array vs, rest)
    | '{' :: rest =>
      match budget with
      | 0 => .error (.peek .tooDeep ('{' :: rest))
      | budget + 1 => do
        let (es, rest) ← members (anyMember (value budget)) [] rest
        .ok (.object es, rest)
    | rest => scalar rest

def maxDepth : Nat := 127

def document {α : Type} (read : Reader α) (source : List Char) : Except Fault α := do
  let (a, rest) ← read source
  match skipBlanks rest with
  | [] => .ok a
  | rest => .error (.peek .trailingText rest)

def decode {α : Type} (read : Reader α) (text : String) : Except Report α :=
  (document read text.toList).mapError (Fault.locate text.toList)

def parse (text : String) : Except Report Json :=
  decode (value maxDepth) text

end DealForm.Json
