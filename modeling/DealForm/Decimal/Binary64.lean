/-!
# Finite double-precision numbers

A finite double is a sign and a magnitude `significand · 2 ^ exponent`. Every operation is exact
arithmetic on natural numbers followed by one rounding of a quotient to the nearest double, a tie
going to the even significand. A magnitude beyond the greatest double is no number.
-/

namespace DealForm.Decimal

/-- A magnitude `significand · 2 ^ exponent`. -/
structure Magnitude where
  significand : Nat
  exponent : Int
  deriving DecidableEq, Repr, Inhabited

namespace Magnitude

def zero : Magnitude := ⟨0, -1074⟩

def isZero (a : Magnitude) : Bool :=
  a.significand == 0

def scaled (n : Nat) (e : Int) : Nat × Nat :=
  if 0 ≤ e then (n * Nat.pow 2 e.toNat, 1) else (n, Nat.pow 2 (-e).toNat)

def ratio (a : Magnitude) : Nat × Nat :=
  scaled a.significand a.exponent

/-- The quotient rounded to a natural number, a tie to the even one. -/
def roundDiv (num den : Nat) : Nat :=
  let q := num / den
  let r := num % den
  if 2 * r < den then q
  else if den < 2 * r then q + 1
  else if q % 2 = 0 then q else q + 1

def binaryScale (num den : Nat) : Int :=
  let e : Int := (Nat.log2 num : Int) - (Nat.log2 den : Int)
  let (n, d) :=
    if 0 ≤ e then (num, den * Nat.pow 2 e.toNat) else (num * Nat.pow 2 (-e).toNat, den)
  if d ≤ n then e else e - 1

def lastPlace (num den : Nat) : Int :=
  max (binaryScale num den - 52) (-1074)

def ofRatio? (num den : Nat) : Option Magnitude :=
  if num = 0 then some zero
  else
    let e := lastPlace num den
    let s :=
      if 0 ≤ e then roundDiv num (den * Nat.pow 2 e.toNat)
      else roundDiv (num * Nat.pow 2 (-e).toNat) den
    let a : Magnitude := if s = 0x20000000000000 then ⟨0x10000000000000, e + 1⟩ else ⟨s, e⟩
    if 971 < a.exponent then none else some a

def ofNat? (n : Nat) : Option Magnitude :=
  ofRatio? n 1

/-- The nearest double to `10 ^ k`; the power is in range up to 308. -/
def powerOfTen (k : Nat) : Magnitude :=
  (ofNat? (Nat.pow 10 k)).getD zero

def mul? (a b : Magnitude) : Option Magnitude :=
  ofRatio? (a.ratio.1 * b.ratio.1) (a.ratio.2 * b.ratio.2)

def div? (a b : Magnitude) : Option Magnitude :=
  ofRatio? (a.ratio.1 * b.ratio.2) (a.ratio.2 * b.ratio.1)

def divideRepeatedly : Nat → Magnitude → Magnitude
  | 0, a => a
  | n + 1, a => if a.isZero then a else divideRepeatedly n ((a.div? (powerOfTen 308)).getD zero)

/-- A decimal number with a significand below `2 ^ 64` and its written exponent. The significand
is rounded first and then multiplied or divided by a rounded power of ten, so that the last place
may differ from the nearest double; none is out of range. -/
def ofDecimal? (significand : Nat) (exponent : Int) : Option Magnitude := do
  let a ← ofNat? significand
  if 0 ≤ exponent then
    if exponent ≤ 308 then a.mul? (powerOfTen exponent.toNat)
    else if a.isZero then some a else none
  else
    let k := (-exponent).toNat
    let turns := (k - 1) / 308
    (divideRepeatedly turns a).div? (powerOfTen (k - 308 * turns))

end Magnitude

/-- A finite double. Zero has two signs. -/
structure Binary64 where
  negative : Bool
  magnitude : Magnitude
  deriving DecidableEq, Repr, Inhabited

namespace Binary64

def sameValue (x y : Binary64) : Bool :=
  (x.magnitude.isZero && y.magnitude.isZero) || x == y

end Binary64

end DealForm.Decimal
