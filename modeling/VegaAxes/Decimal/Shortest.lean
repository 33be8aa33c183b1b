/-!
# Shortest decimals

A finite binary number `m * 2 ^ q` is read back from every decimal of its
rounding interval: the midpoints to its two neighbours, ends included exactly
when `m` is even. `shortest` looks at ever finer decimal grids, and takes the
first that has a point in the interval; of two such points the nearer one.
-/

namespace VegaAxes.Decimal

def twoTo (n : Nat) : Nat :=
  Nat.pow 2 n

def tenTo (n : Nat) : Nat :=
  Nat.pow 10 n

structure Scaled where
  digits : Nat
  exponent : Int
deriving DecidableEq, Repr

inductive Magnitude where
  | nan
  | infinite
  | finite (mantissa : Nat) (exponent : Int)
deriving DecidableEq, Repr

def magnitude (x : Float) : Magnitude :=
  let bits := x.toBits.toNat % twoTo 63
  let exponent := bits / twoTo 52
  let fraction := bits % twoTo 52
  if exponent = 2047 then if fraction = 0 then .infinite else .nan
  else if exponent = 0 then .finite fraction (-1074)
  else .finite (fraction + twoTo 52) (Int.ofNat exponent - 1075)

def isNegative (x : Float) : Bool :=
  x.toBits.toNat / twoTo 63 = 1

/-- Compares `c * 10 ^ k` with `t * 2 ^ s`. -/
def compareDecimal (c : Nat) (k : Int) (t : Nat) (s : Int) : Ordering :=
  compare (c * tenTo k.toNat * twoTo (-s).toNat) (t * twoTo s.toNat * tenTo (-k).toNat)

/-- The integer part of `(m * 2 ^ q) / 10 ^ k`. -/
def floorOnGrid (m : Nat) (q k : Int) : Nat :=
  m * twoTo q.toNat * tenTo (-k).toNat / (tenTo k.toNat * twoTo (-q).toNat)

/-- Whether `c * 10 ^ k` reads back as `m * 2 ^ q`. -/
def readsBack (m : Nat) (q : Int) (c : Nat) (k : Int) : Bool :=
  let ends := m % 2 = 0
  let low := if m = twoTo 52 ∧ q ≠ -1074 then 4 * m - 1 else 4 * m - 2
  let aboveLow := match compareDecimal c k low (q - 2) with
    | .lt => false
    | .eq => ends
    | .gt => true
  let belowHigh := match compareDecimal c k (4 * m + 2) (q - 2) with
    | .lt => true
    | .eq => ends
    | .gt => false
  aboveLow && belowHigh

/-- The point of the grid `10 ^ k` that reads back and is nearest, a tie going to the even one. -/
def onGrid? (m : Nat) (q k : Int) : Option Scaled :=
  let c := floorOnGrid m q k
  match readsBack m q c k, readsBack m q (c + 1) k with
  | true, true =>
    match compareDecimal (2 * c + 1) k (2 * m) q with
    | .lt => some ⟨c + 1, k⟩
    | .gt => some ⟨c, k⟩
    | .eq => some ⟨if c % 2 = 0 then c else c + 1, k⟩
  | true, false => some ⟨c, k⟩
  | false, true => some ⟨c + 1, k⟩
  | false, false => none

/-- The decimal exponent of the first digit of `m * 2 ^ q`. The binary exponent
times the logarithm of two, here `30103 / 100000`, is off by at most one. -/
def leadingExponent (m : Nat) (q : Int) : Int :=
  let estimate := Int.fdiv ((m.log2 + q) * 30103) 100000
  if compareDecimal 1 (estimate + 1) m q ≠ .gt then estimate + 1
  else if compareDecimal 1 estimate m q ≠ .gt then estimate
  else estimate - 1

def digitCount (n : Nat) : Nat :=
  (leadingExponent n 0 + 1).toNat

/-- Seventeen digits always suffice, so the last grid is not searched further. -/
def shortestFrom (m : Nat) (q k : Int) : (finer : Nat) → Scaled
  | 0 => ⟨floorOnGrid m q k, k⟩
  | finer + 1 => (onGrid? m q k).getD (shortestFrom m q (k - 1) finer)

def shortest (m : Nat) (q : Int) : Scaled :=
  shortestFrom m q (leadingExponent m q) 17

example : magnitude 0.1 = .finite 7205759403792794 (-56) := by decide +kernel
example : shortest 7205759403792794 (-56) = ⟨1, -1⟩ := by decide +kernel
example : digitCount 999 = 3 ∧ digitCount 1000 = 4 := by decide +kernel
example : shortest 1 (-1074) = ⟨5, -324⟩ := by decide +kernel

end VegaAxes.Decimal
