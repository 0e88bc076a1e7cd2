/-
  DaqMonitor.Decimal.Shortest

  The fewest decimal digits that read back to the same double.

  A finite double `m * 2 ^ q` is what every real number of an interval around it
  rounds to; the ends belong to the interval when `m` is even. Of the decimal
  grids of 1, 2, … 17 significant digits the first one with a point in that
  interval is taken. Only the two grid points next to the value can be the
  nearest such point; where both lie in the interval the nearer one is taken, and
  of two equally near ones the even one.

    * `Binary.ofDouble x` — the mantissa and exponent of the size of `x`.
    * `shortest x` — the digits and the decimal exponent of the size of `x`.
-/
import DaqMonitor.Decimal.Nearest

namespace DaqMonitor.Decimal

/-! ## The double as a binary fraction -/

/-- A size `mantissa * 2 ^ exponent`. `narrowBelow` tells that the next smaller double is only
    half as far away as the next greater one. -/
structure Binary where
  mantissa : Nat
  exponent : Int
  narrowBelow : Bool
  deriving DecidableEq, Repr

/-- The size of a finite double, its sign left out. -/
def Binary.ofDouble (x : Float) : Binary :=
  let bits := x.toBits.toNat % 0x8000000000000000
  let field : Nat := bits >>> 52
  let fraction : Nat := bits % (1 <<< 52)
  if field = 0 then { mantissa := fraction, exponent := leastExponent, narrowBelow := false }
  else
    { mantissa := fraction + (1 <<< 52)
      exponent := (field : Int) - 1 + leastExponent
      narrowBelow := fraction = 0 && 1 < field }

/-! ## Decimal grids -/

/-- A positive decimal number `digits * 10 ^ exponent`. -/
structure Digits where
  digits : Nat
  exponent : Int
  deriving DecidableEq, Repr

/-- The interval of the numbers that round to a double, in quarters of `2 ^ exponent`. -/
structure Interval where
  low : Nat
  value : Nat
  high : Nat
  exponent : Int
  closed : Bool

/-- The numbers that round to `b`. -/
def Binary.interval (b : Binary) : Interval where
  low := 4 * b.mantissa - (if b.narrowBelow then 1 else 2)
  value := 4 * b.mantissa
  high := 4 * b.mantissa + 2
  exponent := b.exponent - 2
  closed := b.mantissa % 2 == 0

/-- `a * 2 ^ p` and `b * 10 ^ e` as two naturals of the same scale. -/
def alignScales (a : Nat) (p : Int) (b : Nat) (e : Int) : Nat × Nat :=
  ((a <<< p.toNat) * Nat.pow 10 (-e).toNat, (b <<< (-p).toNat) * Nat.pow 10 e.toNat)

/-- Whether `n * 10 ^ e` lies in the interval. -/
def Interval.holds (i : Interval) (n : Nat) (e : Int) : Bool :=
  let (low, x) := alignScales i.low i.exponent n e
  let (high, x') := alignScales i.high i.exponent n e
  if i.closed then low ≤ x && x' ≤ high else low < x && x' < high

/-- The point of the grid of step `10 ^ e` that stands for the value: one of its two neighbours
    on the grid that lies in the interval, the nearer one where both do. -/
def Interval.onGrid? (i : Interval) (e : Int) : Option Nat :=
  let (v, step) := alignScales i.value i.exponent 1 e
  let below := v / step
  match i.holds below e && below != 0, i.holds (below + 1) e with
  | true, true => some (roundHalfEven v step)
  | true, false => some below
  | false, true => some (below + 1)
  | false, false => none

/-- The exponent `k` with `10 ^ (k - 1) ≤ v < 10 ^ k` for the value `v` of the interval. -/
def Interval.magnitude (i : Interval) : Int :=
  -- The logarithm of 2 is 0.30103; the guess is at most two below the exponent.
  let guess := ((i.value.log2 : Int) + i.exponent) * 30103 / 100000
  let atLeast (k : Int) : Bool := let (v, p) := alignScales i.value i.exponent 1 k; p ≤ v
  if atLeast (guess + 1) then guess + 2 else if atLeast guess then guess + 1 else guess

/-- Tries the grids of `17 - fuel` and more significant digits. -/
def Interval.firstGrid (i : Interval) (k : Int) : Nat → Digits
  | 0 => { digits := roundHalfEven i.value 1, exponent := i.exponent }
  | fuel + 1 =>
    let e := k - (17 - (fuel : Int))
    match i.onGrid? e with
    | some n => { digits := n, exponent := e }
    | none => i.firstGrid k fuel

/-- Moves zeros at the end of the digits into the exponent. -/
def Digits.strip (d : Digits) : Nat → Digits
  | 0 => d
  | fuel + 1 =>
    if d.digits != 0 && d.digits % 10 == 0 then
      Digits.strip { digits := d.digits / 10, exponent := d.exponent + 1 } fuel
    else d

/-- The fewest digits that read back to the size of `x`, none for zero. -/
def shortest (x : Float) : Option Digits :=
  let b := Binary.ofDouble x
  if b.mantissa = 0 then none
  else
    let i := b.interval
    some ((i.firstGrid i.magnitude 17).strip 20)

end DaqMonitor.Decimal
