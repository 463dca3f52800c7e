import DealForm.Decimal.Binary64

/-!
# The fewest digits that read back

Among the decimal numbers that round to a given double, the one with the fewest digits, and of
those the nearest to the double; two equally near ones are told apart by the even last digit. The
search runs over the grids of one, two, … digits and tests the double's two neighbours on each.
-/

namespace DealForm.Decimal

structure Digits where
  digits : Nat
  exponent : Int
  deriving DecidableEq, Repr, Inhabited

namespace Magnitude

/-- The numbers that round to `a` reach down to this, in quarters of its last place. -/
def lowQuarters (a : Magnitude) : Nat :=
  if a.significand = 0x10000000000000 && -1074 < a.exponent then 4 * a.significand - 1
  else 4 * a.significand - 2

/-- The numbers that round to `a` reach up to this, in quarters of its last place. -/
def highQuarters (a : Magnitude) : Nat :=
  4 * a.significand + 2

def compareDecimal (d : Nat) (k : Int) (q : Nat) (e : Int) : Ordering :=
  let left := d * Nat.pow 10 k.toNat * Nat.pow 2 (-e).toNat
  let right := q * Nat.pow 2 e.toNat * Nat.pow 10 (-k).toNat
  compare left right

/-- The decimal number `d · 10 ^ k` rounds to `a`. The ends belong to an even significand. -/
def readsBack (a : Magnitude) (d : Nat) (k : Int) : Bool :=
  let low := compareDecimal d k a.lowQuarters (a.exponent - 2)
  let high := compareDecimal d k a.highQuarters (a.exponent - 2)
  if a.significand % 2 = 0 then low != .lt && high != .gt else low == .gt && high == .lt

def floorAt (a : Magnitude) (k : Int) : Nat :=
  let (n, d) := a.ratio
  if 0 ≤ k then n / (d * Nat.pow 10 k.toNat) else n * Nat.pow 10 (-k).toNat / d

/-- Of the two neighbours `d` and `d + 1` of `a` on the grid of `10 ^ k`, the nearer one that reads
back to `a`. -/
def nearest? (a : Magnitude) (k : Int) : Option Nat :=
  let d := a.floorAt k
  match a.readsBack d k, a.readsBack (d + 1) k with
  | false, false => none
  | true, false => some d
  | false, true => some (d + 1)
  | true, true =>
    match compareDecimal (2 * d + 1) k (2 * a.significand) a.exponent with
    | .gt => some d
    | .lt => some (d + 1)
    | .eq => if d % 2 = 0 then some d else some (d + 1)

def decimalScale (a : Magnitude) : Int :=
  let bits : Int := Nat.log2 a.significand + a.exponent
  -- The logarithm of two to the base ten is a little over 0.30102.
  let guess : Int := bits * 30102 / 100000
  let step (k : Int) : Int :=
    if compareDecimal 1 k a.significand a.exponent == .gt then k else k + 1
  step (step (step (guess - 1)))

/-- Searches the grids of `n`, `n + 1`, … digits, at most `turns` of them. -/
def searchDigits (a : Magnitude) (scale : Int) : Nat → Nat → Digits
  | 0, _ => ⟨a.floorAt a.exponent, a.exponent⟩
  | turns + 1, n =>
    let k := scale - (n : Int)
    match a.nearest? k with
    | some d => ⟨d, k⟩
    | none => searchDigits a scale turns (n + 1)

def stripZeros : Nat → Digits → Digits
  | 0, x => x
  | turns + 1, x =>
    if x.digits ≠ 0 && x.digits % 10 = 0 then stripZeros turns ⟨x.digits / 10, x.exponent + 1⟩
    else x

def shortest (a : Magnitude) : Digits :=
  stripZeros 20 (searchDigits a a.decimalScale 17 1)

end Magnitude

end DealForm.Decimal
