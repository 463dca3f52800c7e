/-!
# Host labels in ASCII

A label of a host name that has other characters is written with its ASCII characters first and,
after a hyphen, the others as differences of code points in variable-length numbers to the base 36,
whose digit thresholds adapt to the numbers written so far. Reading goes the same way back.
-/

namespace DealForm.Punycode

def digit (n : Nat) : Char :=
  if n < 26 then Char.ofNat ('a'.toNat + n) else Char.ofNat ('0'.toNat + (n - 26))

def threshold (k bias : Nat) : Nat :=
  if k ≤ bias then 1 else if bias + 26 ≤ k then 26 else k - bias

/-- Divides by 35 while the number is above 455, counting 36 for each turn. -/
def shrink : Nat → Nat → Nat → Nat × Nat
  | 0, delta, k => (delta, k)
  | turns + 1, delta, k => if 455 < delta then shrink turns (delta / 35) (k + 36) else (delta, k)

def adapt (delta written : Nat) (isFirst : Bool) : Nat :=
  let delta := if isFirst then delta / 700 else delta / 2
  let (delta, k) := shrink 12 (delta + delta / written) 0
  k + 36 * delta / (delta + 38)

def number (bias : Nat) : Nat → Nat → Nat → List Char
  | 0, _, _ => []
  | turns + 1, k, q =>
    let t := threshold k bias
    if q < t then [digit q]
    else digit (t + (q - t) % (36 - t)) :: number bias turns (k + 36) ((q - t) / (36 - t))

structure State where
  delta : Nat
  bias : Nat
  written : Nat
  isFirst : Bool
  output : List Char

def State.pass (n : Nat) (s : State) (c : Nat) : State :=
  if c < n then { s with delta := s.delta + 1 }
  else if c = n then
    { delta := 0, bias := adapt s.delta (s.written + 1) s.isFirst, written := s.written + 1,
      isFirst := false, output := s.output ++ number s.bias 40 36 s.delta }
  else s

/-- Writes the characters that are left, from the least code on, in at most `turns` rounds. -/
def rounds (codes : List Nat) : Nat → Nat → State → State
  | 0, _, s => s
  | turns + 1, n, s =>
    match (codes.filter (n ≤ ·)).min? with
    | none => s
    | some m =>
      let s := { s with delta := s.delta + (m - n) * (s.written + 1) }
      let s := codes.foldl (State.pass m) s
      rounds codes turns (m + 1) { s with delta := s.delta + 1 }

def encode (cs : List Char) : List Char :=
  let basic := cs.filter (·.toNat < 0x80)
  let s := rounds (cs.map Char.toNat) cs.length 0x80 ⟨0, 72, basic.length, true, []⟩
  (if basic.isEmpty then [] else basic ++ ['-']) ++ s.output

/-! ## Reading -/

def digitValue? (c : Char) : Option Nat :=
  if 'a' ≤ c && c ≤ 'z' then some (c.toNat - 'a'.toNat)
  else if c.isDigit then some (c.toNat - '0'.toNat + 26)
  else none

def limit : Nat := 0x100000000

/-- Adds a number in variable length to a sum, from the digit at position `k` of a weight on; gives
what follows it as well. -/
def addNumber? (bias : Nat) : Nat → Nat → Nat → List Char → Option (Nat × List Char)
  | _, _, _, [] => none
  | k, weight, sum, c :: cs => do
    let value ← digitValue? c
    let sum := sum + value * weight
    let t := threshold k bias
    if limit ≤ sum then none
    else if value < t then some (sum, cs)
    else if limit ≤ weight * (36 - t) then none
    else addNumber? bias (k + 36) (weight * (36 - t)) sum cs

/-- The characters that are there, and where and with which code point the next one starts. -/
structure Reading where
  place : Nat
  code : Nat
  bias : Nat
  codes : List Nat

/-- Reads the numbers that put further characters in, of which there are at most `turns`. -/
def readNumbers? : Nat → Reading → List Char → Option (List Nat)
  | _, r, [] => some r.codes
  | 0, _, _ :: _ => none
  | turns + 1, r, cs => do
    let (sum, rest) ← addNumber? r.bias 36 1 r.place cs
    let size := r.codes.length + 1
    let code := r.code + sum / size
    let place := sum % size
    if code.isValidChar then
      readNumbers? turns
        { place := place + 1, code
          bias := adapt (sum - r.place) size (r.place == 0)
          codes := r.codes.take place ++ code :: r.codes.drop place } rest
    else none

def decode? (cs : List Char) : Option (List Nat) :=
  let reversed := cs.reverse
  let basic := ((reversed.dropWhile (· != '-')).drop 1).reverse
  let numbers := if basic.isEmpty then cs else (reversed.takeWhile (· != '-')).reverse
  readNumbers? numbers.length ⟨0, 0x80, 72, basic.map Char.toNat⟩ numbers

end DealForm.Punycode
