import DealForm.Text.Classes

/-!
# Patterns

The patterns by which a log filter may describe the value of a field: characters, classes of
characters between brackets, groups, alternatives and repetitions. Only their form matters here. A
pattern stands between braces and commas, so repetitions that are counted in braces have none.
Characters are known one by one: there are no classes of them by name but those of ASCII, no words
to find borders of, and no letters of the other case.
-/

namespace DealForm.Pattern

/-! ## Escapes -/

def hexValue? (c : Char) : Option Nat :=
  if c.isDigit then some (c.toNat - '0'.toNat)
  else if 'a' ≤ c && c ≤ 'f' then some (c.toNat - 'a'.toNat + 10)
  else if 'A' ≤ c && c ≤ 'F' then some (c.toNat - 'A'.toNat + 10)
  else none

/-- The character that a fixed count of digits to the base sixteen stands for. -/
def hexChar? (digits : Nat) (cs : List Char) : Option (Nat × List Char) := do
  if cs.length < digits then none
  else
    let code ← (cs.take digits).foldlM (fun n c ↦ (hexValue? c).map (16 * n + ·)) 0
    if code.isValidChar then some (code, cs.drop digits) else none

/-- Letters that stand for a character without a glyph after a backslash. -/
def controls : List (Char × Nat) :=
  [('a', 7), ('f', 12), ('t', 9), ('n', 10), ('r', 13), ('v', 11)]

def escape? : List Char → Option (Nat × List Char)
  | [] => none
  | 'x' :: cs => hexChar? 2 cs
  | 'u' :: cs => hexChar? 4 cs
  | 'U' :: cs => hexChar? 8 cs
  | c :: cs =>
    match controls.lookup c with
    | some code => some (code, cs)
    | none =>
      if c.toNat < 0x80 && !c.isAlphanum && c != '<' && c != '>' then some (c.toNat, cs) else none

def literal? : List Char → Option (Nat × List Char)
  | [] => none
  | '\\' :: cs => escape? cs
  | c :: cs => some (c.toNat, cs)

/-! ## Classes -/

def classNames : List String :=
  ["alnum", "alpha", "ascii", "blank", "cntrl", "digit", "graph", "lower", "print", "punct",
    "space", "upper", "word", "xdigit"]

def afterNamed? (cs : List Char) : Option (List Char) :=
  match cs with
  | ':' :: cs =>
    let cs := if cs.head? == some '^' then cs.drop 1 else cs
    let name := cs.takeWhile (· != ':')
    match cs.drop name.length with
    | ':' :: ']' :: rest => if classNames.contains (String.ofList name) then some rest else none
    | _ => none
  | _ => none

/-- Passes what has a meaning of its own only at the start of a class. -/
def afterOpening (cs : List Char) : List Char :=
  let cs := if cs.head? == some '^' then cs.drop 1 else cs
  let rest := cs.dropWhile (· == '-')
  if rest.length = cs.length && rest.head? == some ']' then rest.drop 1 else rest

def afterItem? (cs : List Char) : Option (List Char) := do
  let (first, rest) ← literal? cs
  match rest with
  | '-' :: c :: more =>
    if c == ']' || c == '-' then some rest
    else
      let (last, rest) ← literal? (c :: more)
      if first ≤ last then some rest else none
  | _ => some rest

/-- Passes the rest of a class with some classes in it open, in at most `turns` items. -/
def afterClass? : Nat → Nat → List Char → Option (List Char)
  | 0, _, _ => none
  | turns + 1, depth, cs =>
    match cs with
    | [] => none
    | ']' :: rest => if depth = 0 then some rest else afterClass? turns (depth - 1) rest
    | '[' :: rest =>
      match afterNamed? rest with
      | some rest => afterClass? turns depth rest
      | none => afterClass? turns (depth + 1) (afterOpening rest)
    | '&' :: '&' :: rest => afterClass? turns depth rest
    | '-' :: '-' :: rest => afterClass? turns depth rest
    | '~' :: '~' :: rest => afterClass? turns depth rest
    | cs => (afterItem? cs).bind (afterClass? turns depth)

/-! ## Groups -/

/-- Flags, each at most once, and a minus sign before the last ones. -/
def areFlags (flags : List Char) : Bool :=
  flags.all (['i', 'm', 's', 'U', 'u', 'R', 'x', '-'].contains ·) && decide flags.Nodup &&
    flags.getLast? != some '-'

def isNameChar (c : Char) : Bool :=
  Text.isAlphanumeric c || ['_', '.', '[', ']'].contains c

def isName (name : List Char) : Bool :=
  name.head?.any (fun c ↦ c == '_' || (Text.isAlphanumeric c && !c.isDigit)) && name.all isNameChar

inductive Opening where
  | group (name : List Char)
  | flags
  deriving DecidableEq, Repr

def named? (cs : List Char) : Option (Opening × List Char) :=
  let name := cs.takeWhile (· != '>')
  match cs.drop name.length with
  | _ :: rest => if isName name then some (.group name, rest) else none
  | [] => none

/-- Passes flags, which do not ask for letters of the other case. -/
def flagged? (cs : List Char) : Option (Opening × List Char) :=
  let flags := cs.takeWhile fun c ↦ c != ':' && c != ')'
  if !areFlags flags || (flags.takeWhile (· != '-')).contains 'i' then none
  else
    match cs.drop flags.length with
    | ':' :: rest => some (.group [], rest)
    | ')' :: rest => if flags.isEmpty then none else some (.flags, rest)
    | _ => none

def opening? : List Char → Option (Opening × List Char)
  | '?' :: 'P' :: '<' :: cs => named? cs
  | '?' :: '<' :: cs => named? cs
  | '?' :: cs => flagged? cs
  | cs => some (.group [], cs)

/-! ## Whole patterns -/

structure State where
  depth : Nat := 0
  /-- Something stands before that may be repeated. -/
  mayRepeat : Bool := false
  names : List (List Char) := []

def State.open? (s : State) : Opening → Option State
  | .flags => some { s with mayRepeat := false }
  | .group [] => some { s with depth := s.depth + 1, mayRepeat := false }
  | .group name =>
    if s.names.contains name then none
    else some { depth := s.depth + 1, mayRepeat := false, names := name :: s.names }

def next? (s : State) : List Char → Option (State × List Char)
  | [] => none
  | '(' :: cs => do
    let (opening, rest) ← opening? cs
    return (← s.open? opening, rest)
  | ')' :: rest =>
    if s.depth = 0 then none else some ({ s with depth := s.depth - 1, mayRepeat := true }, rest)
  | '|' :: rest => some ({ s with mayRepeat := false }, rest)
  | '[' :: cs => do
    let rest ← afterClass? (cs.length + 1) 0 (afterOpening cs)
    return ({ s with mayRepeat := true }, rest)
  | '{' :: _ => none
  | '\\' :: 'A' :: rest => some ({ s with mayRepeat := true }, rest)
  | '\\' :: 'z' :: rest => some ({ s with mayRepeat := true }, rest)
  | c :: cs =>
    if ['?', '*', '+'].contains c then
      if s.mayRepeat then some (s, if cs.head? == some '?' then cs.drop 1 else cs) else none
    else do
      let (_, rest) ← literal? (c :: cs)
      return ({ s with mayRepeat := true }, rest)

/-- Reads a pattern to its end, in at most `turns` parts. -/
def isWhole : Nat → State → List Char → Bool
  | _, s, [] => s.depth == 0
  | 0, _, _ :: _ => false
  | turns + 1, s, cs =>
    match next? s cs with
    | some (s, rest) => isWhole turns s rest
    | none => false

def isValid (cs : List Char) : Bool :=
  isWhole cs.length {} cs

end DealForm.Pattern
