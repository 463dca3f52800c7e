import DealForm.Json.Value
import DealForm.Decimal.Shortest
import DealForm.Text.Shown

/-!
# JSON text

One printer serves every layout: on one line without spaces, or with one item a line, indented by
a number of spaces for each open container. Strings escape quotes, backslashes and controls, and
nothing else. A double is written with the fewest digits that read back.
-/

namespace DealForm.Json

def natChars (n : Nat) : List Char :=
  Nat.toDigits 10 n

def intChars : Int → List Char
  | .ofNat n => natChars n
  | .negSucc n => '-' :: natChars (n + 1)

/-- Positive doubles are written positionally while their first digit stands between the fifth
place after the point and the sixteenth before it, always with a point; beyond, with the exponent
and its sign. -/
def digitsChars (x : Decimal.Digits) : List Char :=
  let ds := natChars x.digits
  let scale : Int := (ds.length : Int) - 1 + x.exponent
  if 0 ≤ x.exponent && scale ≤ 15 then
    ds ++ List.replicate x.exponent.toNat '0' ++ ['.', '0']
  else if 0 ≤ scale && scale ≤ 15 then
    ds.take (scale.toNat + 1) ++ '.' :: ds.drop (scale.toNat + 1)
  else if scale < 0 && -5 ≤ scale then
    '0' :: '.' :: List.replicate (-scale - 1).toNat '0' ++ ds
  else
    let mantissa := if ds.length = 1 then ds else ds.take 1 ++ '.' :: ds.drop 1
    mantissa ++ 'e' :: (if scale < 0 then '-' else '+') :: natChars scale.natAbs

def magnitudeChars (a : Decimal.Magnitude) : List Char :=
  if a.isZero then ['0', '.', '0'] else digitsChars a.shortest

def floatChars (x : Decimal.Binary64) : List Char :=
  if x.negative then '-' :: magnitudeChars x.magnitude else magnitudeChars x.magnitude

def numberChars : Number → List Char
  | .int n => intChars n
  | .float x => floatChars x

def escapeChar (c : Char) : List Char :=
  if c = '"' then ['\\', '"']
  else if c = '\\' then ['\\', '\\']
  else if c = '\x08' then ['\\', 'b']
  else if c = '\x0c' then ['\\', 'f']
  else if c = '\n' then ['\\', 'n']
  else if c = '\r' then ['\\', 'r']
  else if c = '\t' then ['\\', 't']
  else if c.toNat < 0x20 then
    ['\\', 'u', '0', '0', Text.hexDigit (c.toNat / 16), Text.hexDigit (c.toNat % 16)]
  else [c]

def stringChars (s : String) : List Char :=
  '"' :: s.toList.flatMap escapeChar ++ ['"']

inductive Layout where
  | compact
  /-- One item a line, indented by this many spaces for each open container. -/
  | indented (width : Nat)
  deriving DecidableEq, Repr

namespace Layout

def lineBreak : Layout → Nat → List Char
  | .compact, _ => []
  | .indented width, level => '\n' :: List.replicate (width * level) ' '

def colon : Layout → List Char
  | .compact => [':']
  | .indented _ => [':', ' ']

/-- Sets printed items between brackets that stand inside `level` containers. -/
def enclose (layout : Layout) (level : Nat) (opening closing : Char) (items : List (List Char)) :
    List Char :=
  if items.isEmpty then [opening, closing]
  else
    opening :: List.intercalate [','] (items.map (layout.lineBreak (level + 1) ++ ·)) ++
      layout.lineBreak level ++ [closing]

end Layout

mutual
/-- The text of a value that stands inside `level` containers. -/
def chars (layout : Layout) : Json → Nat → List Char
  | .null, _ => ['n', 'u', 'l', 'l']
  | .bool b, _ => if b then ['t', 'r', 'u', 'e'] else ['f', 'a', 'l', 's', 'e']
  | .number n, _ => numberChars n
  | .string s, _ => stringChars s
  | .array vs, level => layout.enclose level '[' ']' (itemsChars layout vs (level + 1))
  | .object es, level => layout.enclose level '{' '}' (entriesChars layout es (level + 1))
termination_by structural v => v

def itemsChars (layout : Layout) : List Json → Nat → List (List Char)
  | [], _ => []
  | v :: vs, level => v.chars layout level :: itemsChars layout vs level
termination_by structural vs => vs

def entriesChars (layout : Layout) : Entries → Nat → List (List Char)
  | [], _ => []
  | e :: es, level => entryChars layout e level :: entriesChars layout es level
termination_by structural es => es

def entryChars (layout : Layout) : String × Json → Nat → List Char
  | (k, v), level => stringChars k ++ layout.colon ++ v.chars layout level
termination_by structural e => e
end

def print (layout : Layout) (v : Json) : String :=
  String.ofList (v.chars layout 0)

def compact (v : Json) : String :=
  v.print .compact

def pretty (v : Json) : String :=
  v.print (.indented 4)

def stored (v : Json) : String :=
  v.print (.indented 2)

end DealForm.Json
