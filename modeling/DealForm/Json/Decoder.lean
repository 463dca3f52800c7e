import DealForm.Json.Skip

/-!
# Reading typed values

The readers of texts, whole numbers and truth values, of values that may be null, and of structures
that are written as an object or as an array of their fields. A text of another shape is refused
with what it holds and what was expected.
-/

namespace DealForm.Json

/-- Refuses a value of another shape. A scalar is read first, so that its own faults come before;
a container is refused at its bracket. -/
def refuse {α : Type} (expected : String) (s : List Char) : Except Fault α :=
  match s with
  | '[' :: _ => .error (.stop (.mismatch (.wrongType .sequence expected)) s)
  | '{' :: _ => .error (.stop (.mismatch (.wrongType .map expected)) s)
  | _ =>
    match scalar s with
    | .ok (v, rest) => .error (.stop (.mismatch (.wrongType (.of v) expected)) rest)
    | .error f => .error f

/-- A type of scalars: what messages call it, and which values belong to it. -/
structure ScalarType (α : Type) where
  name : String
  view : Json → Except Mismatch α

namespace ScalarType

def text (name : String) : ScalarType String where
  name := name
  view
    | .string s => .ok s
    | v => .error (.wrongType (.of v) name)

def integer (name : String) (least greatest : Int) : ScalarType Int where
  name := name
  view
    | .number (.int n) =>
      if least ≤ n && n ≤ greatest then .ok n else .error (.wrongValue (.int n) name)
    | v => .error (.wrongType (.of v) name)

def int64 : ScalarType Int :=
  integer "i64" (-0x8000000000000000) 0x7FFFFFFFFFFFFFFF

def nat64 : ScalarType Int :=
  integer "u64" 0 0xFFFFFFFFFFFFFFFF

def truth : ScalarType Bool where
  name := "a boolean"
  view
    | .bool b => .ok b
    | v => .error (.wrongType (.of v) "a boolean")

def orNull {α : Type} (t : ScalarType α) : ScalarType (Option α) where
  name := t.name
  view
    | .null => .ok none
    | v => (t.view v).map some

end ScalarType

def typed {α : Type} (t : ScalarType α) : Reader α := fun s ↦
  match skipBlanks s with
  | '[' :: rest => refuse t.name ('[' :: rest)
  | '{' :: rest => refuse t.name ('{' :: rest)
  | s => do
    let (v, rest) ← scalar s
    match t.view v with
    | .ok a => .ok (a, rest)
    | .error m => .error (.stop (.mismatch m) rest)

def listOf {α : Type} (item : Reader α) : Reader (List α) := fun s ↦
  match skipBlanks s with
  | '[' :: rest => items item rest
  | [] => .error (.peek .endOfValue [])
  | rest => refuse "a sequence" rest

/-! ## Structures -/

/-- Where a reader of an object stops after a fault of its member. -/
def afterObject (s : List Char) : List Char :=
  match skipBlanks s with
  | '}' :: rest => rest
  | rest => rest

/-- Where a reader of an array stops after a fault of its item. -/
def afterArray (s : List Char) : List Char :=
  match skipBlanks s with
  | ']' :: rest => rest
  | ',' :: rest => skipBlanks rest
  | rest => rest

def endOfArray (s : List Char) : Except Fault (List Char) :=
  match skipBlanks s with
  | ']' :: rest => .ok rest
  | ',' :: rest =>
    match skipBlanks rest with
    | ']' :: rest => .error (.peek .trailingComma (']' :: rest))
    | rest => .error (.peek .trailingText rest)
  | [] => .error (.peek .endOfList [])
  | rest => .error (.peek .trailingText rest)

/-- Reads the next item of an array, if there is one; the closing bracket stays. -/
def nextItem {α : Type} (item : Reader α) (isFirst : Bool) : Reader (Option α) := fun s ↦
  match skipBlanks s with
  | ']' :: rest => .ok (none, ']' :: rest)
  | [] => .error (.peek .endOfList [])
  | c :: rest =>
    if isFirst then do
      let (a, rest) ← item (c :: rest)
      .ok (some a, rest)
    else if c = ',' then
      match skipBlanks rest with
      | ']' :: rest => .error (.peek .trailingComma (']' :: rest))
      | [] => .error (.peek .endOfValue [])
      | rest => do
        let (a, rest) ← item rest
        .ok (some a, rest)
    else .error (.peek .expectedListEnd (c :: rest))

def duplicate (field : String) (rest : List Char) : Fault :=
  ⟨.mismatch (.duplicateField field), .pending rest⟩

/-- Reads the members of an object into a state; faults without a place get theirs. -/
def objectMembers {σ : Type} (member : σ → String → Reader σ) (state : σ) : Reader σ := fun s ↦
  (members member state s).mapError (Fault.settle afterObject)

def concluded {α : Type} (result : Except Mismatch α) : Reader α := fun rest ↦
  match result with
  | .ok a => .ok (a, rest)
  | .error m => .error (.stop (.mismatch m) rest)

end DealForm.Json
