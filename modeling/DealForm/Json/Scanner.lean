import DealForm.Json.Fault

/-!
# Words, strings and numbers of JSON

The readers of single tokens: blanks, the three words, string literals with their escapes, and
number literals. An integer literal that fits 64 bits is an integer, `-0` apart; every other
number literal is a double, read with a significand that stops growing at 64 bits.
-/

namespace DealForm.Json

def isBlank (c : Char) : Bool :=
  c == ' ' || c == '\n' || c == '\t' || c == '\r'

def skipBlanks (s : List Char) : List Char :=
  s.dropWhile isBlank

def word : List Char → List Char → Except Fault (List Char)
  | [], s => .ok s
  | _ :: _, [] => .error (.stop .endOfValue [])
  | e :: es, c :: cs => if c = e then word es cs else .error (.peek .expectedWord (c :: cs))

/-! ## Strings -/

def hexValue? (c : Char) : Option Nat :=
  if '0' ≤ c && c ≤ '9' then some (c.toNat - '0'.toNat)
  else if 'a' ≤ c && c ≤ 'f' then some (c.toNat - 'a'.toNat + 10)
  else if 'A' ≤ c && c ≤ 'F' then some (c.toNat - 'A'.toNat + 10)
  else none

def hexQuad? (a b c d : Char) : Option Nat := do
  return (← hexValue? a) * 4096 + (← hexValue? b) * 256 + (← hexValue? c) * 16 + (← hexValue? d)

/-- Reads four digits of base sixteen. Four bytes are taken before they are looked at. -/
def hexEscape (s : List Char) : Except Fault (Nat × List Char) :=
  match s with
  | a :: b :: c :: d :: rest =>
    match hexQuad? a b c d with
    | some n => .ok (n, rest)
    | none => .error ⟨.invalidEscape, .here s 4⟩
  | _ =>
    if Utf8.size s < 4 then .error (.stop .endOfString [])
    else .error ⟨.invalidEscape, .here s 4⟩

def isLeadingSurrogate (n : Nat) : Bool :=
  0xD800 ≤ n && n ≤ 0xDBFF

def isTrailingSurrogate (n : Nat) : Bool :=
  0xDC00 ≤ n && n ≤ 0xDFFF

def pairedChar (leading trailing : Nat) : Char :=
  Char.ofNat (0x10000 + (leading - 0xD800) * 1024 + (trailing - 0xDC00))

def trailingEscape (leading : Nat) : Reader Char
  | [] => .error (.stop .endOfString [])
  | '\\' :: s =>
    match s with
    | [] => .error (.stop .endOfString [])
    | 'u' :: rest => do
      let (n, rest) ← hexEscape rest
      if isTrailingSurrogate n then .ok (pairedChar leading n, rest)
      else .error (.stop .loneSurrogate rest)
    | s => .error (.peek .unpairedSurrogate s)
  | s => .error (.peek .unpairedSurrogate s)

def unicodeEscape (s : List Char) : Except Fault (Char × List Char) := do
  let (n, rest) ← hexEscape s
  if isTrailingSurrogate n then .error (.stop .loneSurrogate rest)
  else if isLeadingSurrogate n then trailingEscape n rest
  else .ok (Char.ofNat n, rest)

def escape : Reader Char
  | '"' :: rest => .ok ('"', rest)
  | '\\' :: rest => .ok ('\\', rest)
  | '/' :: rest => .ok ('/', rest)
  | 'b' :: rest => .ok ('\x08', rest)
  | 'f' :: rest => .ok ('\x0c', rest)
  | 'n' :: rest => .ok ('\n', rest)
  | 'r' :: rest => .ok ('\r', rest)
  | 't' :: rest => .ok ('\t', rest)
  | 'u' :: rest => unicodeEscape rest
  | [] => .error (.stop .endOfString [])
  | s => .error (.peek .invalidEscape s)

def stringBody : Nat → Reader (List Char)
  | 0, _ => .error (.stop .endOfString [])
  | _ + 1, [] => .error (.stop .endOfString [])
  | turns + 1, c :: rest =>
    if c = '"' then .ok ([], rest)
    else if c = '\\' then do
      let (d, rest) ← escape rest
      let (ds, rest) ← stringBody turns rest
      .ok (d :: ds, rest)
    else if c.toNat < 0x20 then .error (.peek .controlCharacter (c :: rest))
    else do
      let (ds, rest) ← stringBody turns rest
      .ok (c :: ds, rest)

def stringLiteral (s : List Char) : Except Fault (String × List Char) := do
  let (cs, rest) ← stringBody (s.length + 1) s
  .ok (String.ofList cs, rest)

/-! ## Numbers -/

def digit? (c : Char) : Option Nat :=
  if c.isDigit then some (c.toNat - '0'.toNat) else none

def startsWithDigit : List Char → Bool
  | c :: _ => c.isDigit
  | [] => false

/-- Reads digits while the number stays within the limit: the number, how many digits were taken,
and the rest. -/
def absorbDigits (limit : Nat) : Nat → Nat → List Char → Nat × Nat × List Char
  | value, count, [] => (value, count, [])
  | value, count, c :: cs =>
    match digit? c with
    | some d =>
      if limit < value * 10 + d then (value, count, c :: cs)
      else absorbDigits limit (value * 10 + d) (count + 1) cs
    | none => (value, count, c :: cs)

def maxSignificand : Nat := 0xFFFFFFFFFFFFFFFF

def maxExponent : Nat := 0x7FFFFFFF

def clampExponent (e : Int) : Int :=
  max (-0x80000000) (min e 0x7FFFFFFF)

def floatOf (negative : Bool) (significand : Nat) (exponent : Int) : Reader Number := fun rest ↦
  match Decimal.Magnitude.ofDecimal? significand exponent with
  | some a => .ok (.float ⟨negative, a⟩, rest)
  | none => .error (.stop .outOfRange rest)

def exponentSign : List Char → Bool × List Char
  | '+' :: s => (false, s)
  | '-' :: s => (true, s)
  | s => (false, s)

def exponentPart (negative : Bool) (significand : Nat) (start : Int) : Reader Number := fun s ↦
  let (downward, s) := exponentSign s
  match s with
  | [] => .error (.stop .endOfValue [])
  | c :: cs =>
    match digit? c with
    | none => .error (.peek .invalidNumber s)
    | some d =>
      let (e, _, rest) := absorbDigits maxExponent d 1 cs
      if startsWithDigit rest then
        if significand ≠ 0 && !downward then .error (.peek .outOfRange rest)
        else .ok (.float ⟨negative, .zero⟩, rest.dropWhile Char.isDigit)
      else
        let exponent := clampExponent (if downward then start - e else start + e)
        floatOf negative significand exponent rest

/-- Ends a number that has a point or too many digits: an exponent may follow. -/
def floatEnd (negative : Bool) (significand : Nat) (exponent : Int) : Reader Number
  | 'e' :: s => exponentPart negative significand exponent s
  | 'E' :: s => exponentPart negative significand exponent s
  | s => floatOf negative significand exponent s

/-- Reads the digits after a point. Digits that the significand can not take are ignored. -/
def fractionPart (negative : Bool) (significand : Nat) (exponent : Int) : Reader Number := fun s ↦
  let (v, count, rest) := absorbDigits maxSignificand significand 0 s
  if startsWithDigit rest then
    floatEnd negative v (exponent - count) (rest.dropWhile Char.isDigit)
  else if count = 0 then
    match rest with
    | [] => .error (.peek .endOfValue rest)
    | _ => .error (.peek .invalidNumber rest)
  else floatEnd negative v (exponent - count) rest

def integerEnd (negative : Bool) (significand : Nat) : Reader Number
  | '.' :: s => fractionPart negative significand 0 s
  | 'e' :: s => exponentPart negative significand 0 s
  | 'E' :: s => exponentPart negative significand 0 s
  | s =>
    if !negative then .ok (.int significand, s)
    else if significand ≠ 0 && significand ≤ 0x8000000000000000 then .ok (.int (-significand), s)
    else floatOf true significand 0 s

/-- Ends a number whose integer part has digits beyond the significand: each counts in the
exponent. -/
def longIntegerEnd (negative : Bool) (significand : Nat) : Reader Number := fun s ↦
  let exponent : Int := (s.takeWhile Char.isDigit).length
  match s.dropWhile Char.isDigit with
  | '.' :: rest => fractionPart negative significand exponent rest
  | rest => floatEnd negative significand exponent rest

def numberLiteral (negative : Bool) : Reader Number
  | [] => .error (.stop .endOfValue [])
  | '0' :: s =>
    if startsWithDigit s then .error (.peek .invalidNumber s) else integerEnd negative 0 s
  | c :: s =>
    match digit? c with
    | none => .error (.peek .invalidNumber (c :: s))
    | some d =>
      let (v, _, rest) := absorbDigits maxSignificand d 1 s
      if startsWithDigit rest then longIntegerEnd negative v rest else integerEnd negative v rest

end DealForm.Json
