/-
  DaqMonitor.Decimal.Notation

  How a double is written: which decimal exponents are written out in positions,
  and what the scientific form of the others looks like.
-/
import DaqMonitor.Decimal.Shortest
import DaqMonitor.Text.Basic

namespace DaqMonitor.Decimal

/-- The choices of a format for floating-point numbers. -/
structure Notation where
  /-- The least decimal exponent of the first digit that is written in positions. -/
  leastPositional : Int
  /-- The least decimal exponent of the first digit that is no longer written in positions. -/
  beyondPositional : Int
  /-- The sign of an exponent that is not negative. -/
  plus : String
  deriving DecidableEq, Repr

/-- The digits with a point before the last `places` of them, with a zero on either side of the
    point where no digit stands there. -/
def placePoint (digits : List Char) (places : Nat) : List Char :=
  let padded := List.replicate (places + 1 - digits.length) '0' ++ digits
  let whole := padded.take (padded.length - places)
  let part := padded.drop (padded.length - places)
  whole ++ '.' :: (if part.isEmpty then ['0'] else part)

/-- Writes `d` in positions: all digits, with at least one on either side of the point. -/
def Digits.positional (d : Digits) : List Char :=
  let digits := Nat.toDigits 10 d.digits
  placePoint (digits ++ List.replicate d.exponent.toNat '0') (-d.exponent).toNat

/-- Writes `d` with one digit before the point, no point where no digit follows, and an exponent. -/
def Digits.scientific (d : Digits) (plus : String) : List Char :=
  let digits := Nat.toDigits 10 d.digits
  let exponent := d.exponent + (digits.length : Int) - 1
  let mantissa :=
    match digits with
    | [] => []
    | first :: [] => [first]
    | first :: rest => first :: '.' :: rest
  mantissa ++ 'e' :: (if exponent < 0 then [] else plus.toList) ++ (Text.ofInt exponent).toList

/-- Writes the size of a finite double. -/
def Notation.size (f : Notation) (x : Float) : List Char :=
  match shortest x with
  | none => "0.0".toList
  | some d =>
    let exponent := d.exponent + (digitCount d.digits : Int) - 1
    if f.leastPositional ≤ exponent && exponent < f.beyondPositional then d.positional
    else d.scientific f.plus

/-- Whether the sign bit of a double is set. -/
def isNegative (x : Float) : Bool := 0x8000000000000000 ≤ x.toBits.toNat

/-- Writes a finite double. -/
def Notation.render (f : Notation) (x : Float) : String :=
  String.ofList (if isNegative x then '-' :: f.size x else f.size x)

end DaqMonitor.Decimal
