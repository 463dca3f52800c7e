import DealForm.Json.Reader

/-!
# Passing over values

The value of a key that nobody asked for is passed over. It must be well formed, but less is
required of it than of a value that is kept: it may be nested without limit, its numbers may be
out of range, and its escapes may be halves of surrogate pairs.
-/

namespace DealForm.Json

def skipEscape : List Char → Except Fault (List Char)
  | [] => .error (.stop .endOfString [])
  | c :: rest =>
    if c = 'u' then do
      let (_, rest) ← hexEscape rest
      .ok rest
    else if c ∈ ['"', '\\', '/', 'b', 'f', 'n', 'r', 't'] then .ok rest
    else .error (.peek .invalidEscape (c :: rest))

def skipString : Nat → List Char → Except Fault (List Char)
  | 0, _ => .error (.stop .endOfString [])
  | _ + 1, [] => .error (.stop .endOfString [])
  | turns + 1, c :: rest =>
    if c = '"' then .ok rest
    else if c = '\\' then do
      let rest ← skipEscape rest
      skipString turns rest
    else if c.toNat < 0x20 then .error (.stop .controlCharacter (c :: rest))
    else skipString turns rest

def skipLiteral (s : List Char) : Except Fault (List Char) :=
  skipString (s.length + 1) s

def skipExponent (s : List Char) : Except Fault (List Char) :=
  let (_, s) := exponentSign s
  if startsWithDigit s then .ok (s.dropWhile Char.isDigit) else .error (.peek .invalidNumber s)

def skipFloatEnd : List Char → Except Fault (List Char)
  | 'e' :: s => skipExponent s
  | 'E' :: s => skipExponent s
  | s => .ok s

def skipIntegerEnd : List Char → Except Fault (List Char)
  | '.' :: s =>
    if startsWithDigit s then skipFloatEnd (s.dropWhile Char.isDigit)
    else .error (.peek .invalidNumber s)
  | s => skipFloatEnd s

def skipNumber : List Char → Except Fault (List Char)
  | '0' :: s =>
    if startsWithDigit s then .error (.peek .invalidNumber s) else skipIntegerEnd s
  | s =>
    if startsWithDigit s then skipIntegerEnd (s.dropWhile Char.isDigit)
    else .error (.peek .invalidNumber s)

def skipScalar : List Char → Except Fault (List Char)
  | [] => .error (.peek .endOfValue [])
  | 'n' :: s => word ['u', 'l', 'l'] s
  | 't' :: s => word ['r', 'u', 'e'] s
  | 'f' :: s => word ['a', 'l', 's', 'e'] s
  | '"' :: s => skipLiteral s
  | '-' :: s => skipNumber s
  | s => if startsWithDigit s then skipNumber s else .error (.peek .expectedValue s)

def skipItemsAfter (skip : List Char → Except Fault (List Char)) :
    Nat → List Char → Except Fault (List Char)
  | 0, _ => .error (.stop .endOfList [])
  | turns + 1, s =>
    match skipBlanks s with
    | ']' :: rest => .ok rest
    | ',' :: rest => do
      let rest ← skip rest
      skipItemsAfter skip turns rest
    | [] => .error (.peek .endOfList [])
    | rest => .error (.peek .expectedListEnd rest)

def skipItems (skip : List Char → Except Fault (List Char)) (s : List Char) :
    Except Fault (List Char) :=
  match skipBlanks s with
  | ']' :: rest => .ok rest
  | [] => .error (.peek .endOfList [])
  | rest => do
    let rest ← skip rest
    skipItemsAfter skip (rest.length + 1) rest

def skipMember (skip : List Char → Except Fault (List Char)) (s : List Char) :
    Except Fault (List Char) :=
  match skipBlanks s with
  | '"' :: rest => do
    let rest ← skipLiteral rest
    let rest ← colon rest
    skip rest
  | [] => .error (.peek .endOfObject [])
  | rest => .error (.peek .keyNotString rest)

def skipMembersAfter (skip : List Char → Except Fault (List Char)) :
    Nat → List Char → Except Fault (List Char)
  | 0, _ => .error (.stop .endOfObject [])
  | turns + 1, s =>
    match skipBlanks s with
    | '}' :: rest => .ok rest
    | ',' :: rest => do
      let rest ← skipMember skip rest
      skipMembersAfter skip turns rest
    | [] => .error (.peek .endOfObject [])
    | rest => .error (.peek .expectedObjectEnd rest)

def skipMembers (skip : List Char → Except Fault (List Char)) (s : List Char) :
    Except Fault (List Char) :=
  match skipBlanks s with
  | '}' :: rest => .ok rest
  | [] => .error (.peek .endOfObject [])
  | rest => do
    let rest ← skipMember skip rest
    skipMembersAfter skip (rest.length + 1) rest

/-- Passes over a value with at most `turns` open containers. -/
def skipWithin : Nat → List Char → Except Fault (List Char)
  | 0, s => skipScalar (skipBlanks s)
  | turns + 1, s =>
    match skipBlanks s with
    | '[' :: rest => skipItems (skipWithin turns) rest
    | '{' :: rest => skipMembers (skipWithin turns) rest
    | rest => skipScalar rest

/-- Passes over a value. A text has no more containers than characters. -/
def skipValue (s : List Char) : Except Fault (List Char) :=
  skipWithin s.length s

end DealForm.Json
