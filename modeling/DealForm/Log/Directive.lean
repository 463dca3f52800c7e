import DealForm.Log.Event
import DealForm.Log.Pattern

/-!
# Directives

A directive is a part of the text of a log filter, such as `part[span{field=value}]=level`. It is
read from its first character that is no blank to its last one. The pieces of it are taken by their
distance from there, but from the whole text: blanks in front shift them, and a piece may then start
or end inside a character.
-/

namespace DealForm

/-- The least grave level that is written, or nothing at all. -/
abbrev Threshold := Option LogLevel

/-- Which events are written, among those of some parts of the program with some fields. -/
structure Directive where
  target : Option String := none
  fields : List String := []
  threshold : Threshold
  deriving DecidableEq, Repr

inductive FilterFault where
  | invalid
  /-- A piece of the text starts or ends inside a character. -/
  | torn
  deriving DecidableEq, Repr

namespace Directive

/-! ## Levels -/

def numbered : List Threshold :=
  [none, some .error, some .warn, some .info, some .debug, some .trace]

def named : List (String × Threshold) :=
  [("off", none), ("error", some .error), ("warn", some .warn), ("info", some .info),
    ("debug", some .debug), ("trace", some .trace)]

/-- A number with digits alone, or a plus sign in front of them. -/
def number? (cs : List Char) : Option Nat :=
  let digits := if cs.head? == some '+' then cs.drop 1 else cs
  if digits.isEmpty || !digits.all Char.isDigit then none
  else some (digits.foldl (fun n c ↦ n * 10 + (c.toNat - '0'.toNat)) 0)

def threshold? (cs : List Char) : Option Threshold :=
  match number? cs with
  | some n => numbered[n]?
  | none => named.lookup (String.ofList (cs.map Char.toLower))

/-! ## Values of fields -/

def isDecimal (cs : List Char) : Bool :=
  cs.any Char.isDigit && cs.all (fun c ↦ c.isDigit || c == '.') && cs.count '.' ≤ 1

def isExponent : List Char → Bool
  | [] => true
  | e :: cs =>
    let digits := if cs.head?.any (['+', '-'].contains ·) then cs.drop 1 else cs
    e.toLower == 'e' && !digits.isEmpty && digits.all Char.isDigit

def isUnsigned (cs : List Char) : Bool :=
  ["inf", "infinity", "nan"].contains (String.ofList (cs.map Char.toLower)) ||
    (isDecimal (cs.takeWhile fun c ↦ c.toLower != 'e') &&
      isExponent (cs.dropWhile fun c ↦ c.toLower != 'e'))

/-- The value of a field is a pattern. A number with a plus sign is none, but will do. -/
def isValue (cs : List Char) : Bool :=
  (cs.head? == some '+' && isUnsigned (cs.drop 1)) || Pattern.isValid cs

/-! ## Reading -/

/-- Where the reading of a directive stands; pieces start at a distance. -/
inductive Stage where
  | start
  | name (start : Nat)
  | span (start : Nat)
  | field (start : Nat)
  | fields
  | closed
  | level (start : Nat)
  deriving DecidableEq, Repr

structure Draft where
  stage : Stage := .start
  target : Option String := none
  span : Option String := none
  fields : List String := []
  hasValue : Bool := false
  deriving DecidableEq, Repr

def piece (text : List Char) (start stop : Nat) : Except FilterFault (List Char) :=
  match (Utf8.splitAt? stop text).bind fun (front, _) ↦ Utf8.splitAt? start front with
  | some (_, cs) => .ok cs
  | none => .error .torn

def isOpening (c : Char) : Bool :=
  ['-', ':', '_'].contains c || Text.isAlphanumeric c

namespace Draft

def addField (d : Draft) (cs : List Char) : Except FilterFault Draft :=
  let sides := Text.splitAt '=' cs
  let values := (sides.drop 1).take 1
  if cs.isEmpty || !values.all isValue then .error .invalid
  else
    .ok { d with
      stage := .fields
      fields := d.fields ++ [String.ofList (sides.headD [])]
      hasValue := d.hasValue || !values.isEmpty }

def endSpan (d : Draft) (name : List Char) (c : Char) (next : Nat) : Draft :=
  if c = ']' then { d with stage := .closed, span := some (String.ofList name) }
  else
    { d with
      stage := .field next
      span := if name.isEmpty then none else some (String.ofList name) }

def next (text : List Char) (d : Draft) (place : Nat) (c : Char) : Except FilterFault Draft :=
  match d.stage with
  | .start =>
    if c = '[' then .ok { d with stage := .span (place + 1) }
    else if isOpening c then .ok { d with stage := .name place }
    else .error .invalid
  | .name start =>
    if c = '=' || c = '[' then do
      let target := some (String.ofList (← piece text start place))
      .ok { d with stage := if c = '=' then .level (place + 1) else .span (place + 1), target }
    else .ok d
  | .span start =>
    if c = ']' || c = '\x7b' then do .ok (d.endSpan (← piece text start place) c (place + 1))
    else .ok d
  | .field start =>
    if c = '\x7d' then do d.addField (← piece text start place) else .ok d
  | .fields => if c = ']' then .ok { d with stage := .closed } else .error .invalid
  | .closed =>
    if c = '=' then .ok { d with stage := .level (place + 1) }
    else if isOpening c then .ok { d with stage := .name place }
    else .error .invalid
  | .level _ => .ok d

def read (text : List Char) (d : Draft) (place : Nat) : List Char → Except FilterFault Draft
  | [] => .ok d
  | c :: cs => do read text (← d.next text place c) (place + Utf8.charSize c) cs

/-- The directive with this threshold, if it can be decided without spans and values. -/
def finish (d : Draft) (threshold : Threshold) : Option Directive :=
  if d.span.isSome || d.hasValue then none
  else some { target := d.target, fields := d.fields, threshold }

/-- The directive at the end of the text. A name alone is a level, if it can be one, or else a part
of the program all of whose events are written. -/
def conclude (text : List Char) (d : Draft) : Except FilterFault (Option Directive) :=
  let everything : Threshold := some .trace
  match d.stage with
  | .closed => .ok (d.finish everything)
  | .name start => do
    let name ← piece text start (Utf8.size text)
    match threshold? name with
    | some threshold => .ok ({ d with target := none }.finish threshold)
    | none => .ok ({ d with target := some (String.ofList name) }.finish everything)
  | .level start => do
    let level ← piece text start (Utf8.size text)
    match threshold? level with
    | some threshold => .ok (d.finish threshold)
    | none => if level.isEmpty then .ok (d.finish everything) else .error .invalid
  | _ => .error .invalid

end Draft

/-- Reads a directive. One that can not be decided by an event alone says nothing of events. -/
def parse (text : List Char) : Except FilterFault (Option Directive) := do
  let draft ← Draft.read text {} 0 (Text.trim text)
  draft.conclude text

end Directive

end DealForm
