/-
  DaqMonitor.Decimal.Nearest

  The double nearest to a rational number, in exact arithmetic on naturals.

  A positive double is `m * 2 ^ q` with `m < 2 ^ 53` and `-1074 ≤ q`. The nearest
  one to `num / den` is found by choosing the binary exponent `q` that leaves 53
  bits before the point, rounding the quotient to a whole number, and putting
  both into the bit pattern. Ties go to the even neighbour.

    * `roundHalfEven num den` — the whole number nearest to `num / den`.
    * `nearestDouble num den` — the double nearest to `num / den`.
    * `nearestScaled n e` — the double nearest to `n * 10 ^ e`.
-/

namespace DaqMonitor.Decimal

/-- The whole number nearest to `num / den`; a half goes to the even neighbour. -/
def roundHalfEven (num den : Nat) : Nat :=
  let q := num / den
  let twice := 2 * (num % den)
  if twice > den || (twice == den && q % 2 == 1) then q + 1 else q

/-- A rounded quotient is the floor or its successor. -/
theorem roundHalfEven_eq_or (num den : Nat) :
    roundHalfEven num den = num / den ∨ roundHalfEven num den = num / den + 1 := by
  simp only [roundHalfEven]
  split
  · exact .inr rfl
  · exact .inl rfl

/-- A whole quotient stays as it is. -/
theorem roundHalfEven_mul (n den : Nat) (h : 0 < den) : roundHalfEven (n * den) den = n := by
  simp [roundHalfEven, Nat.mul_div_cancel _ h, Nat.mul_mod_left]
  omega

/-- The least binary exponent of a double. -/
def leastExponent : Int := -1074

/-- The binary exponent that leaves 53 bits before the point of `num / den`, but no less than the
    least one. -/
def binaryExponent (num den : Nat) : Int :=
  -- The logarithms are rounded down, so the guess can be one too high.
  let guess : Int := (num.log2 : Int) - (den.log2 : Int) - 52
  let fits : Bool :=
    if 0 ≤ guess then den <<< (52 + guess.toNat) ≤ num
    else den <<< 52 ≤ num <<< (-guess).toNat
  max leastExponent (if fits then guess else guess - 1)

/-- The bit pattern of the double nearest to `num / den`, where `den` is not zero. -/
def nearestBits (num den : Nat) : UInt64 :=
  if num = 0 then 0
  else
    let q := binaryExponent num den
    let m :=
      if 0 ≤ q then roundHalfEven num (den <<< q.toNat)
      else roundHalfEven (num <<< (-q).toNat) den
    -- A mantissa of 54 bits or of fewer than 53 carries into the exponent field or leaves it zero.
    let bits := ((q - leastExponent).toNat <<< 52) + m
    if 0x7FF0000000000000 ≤ bits then 0x7FF0000000000000 else UInt64.ofNat bits

/-- The double nearest to `num / den`, infinity where that is beyond the greatest double. -/
def nearestDouble (num den : Nat) : Float := Float.ofBits (nearestBits num den)

/-- The number of decimal digits of a number, at least one. -/
def digitCount (n : Nat) : Nat := (Nat.toDigits 10 n).length

/-- The double nearest to `n * 10 ^ e`. An exponent that puts the number beyond all doubles, or
    below half of the least, is not computed with. -/
def nearestScaled (n : Nat) (e : Int) : Float :=
  if n = 0 then 0.0
  else if (digitCount n : Int) + e > 400 then Float.ofBits 0x7FF0000000000000
  else if (digitCount n : Int) + e < -400 then 0.0
  else if 0 ≤ e then nearestDouble (n * Nat.pow 10 e.toNat) 1
  else nearestDouble n (Nat.pow 10 (-e).toNat)

end DaqMonitor.Decimal
