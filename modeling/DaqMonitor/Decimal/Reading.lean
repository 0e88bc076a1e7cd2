/-
  DaqMonitor.Decimal.Reading

  Reading a double from a text: a sign, then digits with an optional point and
  exponent, or one of the words for infinity and for "no number". The value is
  the double nearest to what is written.
-/
import DaqMonitor.Decimal.Nearest
import DaqMonitor.Text.Basic

namespace DaqMonitor.Decimal

/-- The double that is no number. -/
def notANumber : Float := Float.ofBits 0x7FF8000000000000

/-- Positive infinity. -/
def infinity : Float := Float.ofBits 0x7FF0000000000000

/-- The digits of a decimal number, as one whole number, and the decimal exponent that belongs
    to it. -/
structure Literal where
  mantissa : Nat
  exponent : Int
  deriving DecidableEq, Repr

/-- Reads an exponent mark with its digits, or nothing. -/
def readExponent? : List Char → Option Int
  | [] => some 0
  | c :: cs =>
    if c == 'e' || c == 'E' then
      match cs with
      | '-' :: ds => (Text.readDigits? ds).map fun n => -(n : Int)
      | ds => (Text.readNatural? ds).map fun n => (n : Int)
    else none

/-- Reads a decimal number without a sign. At least one digit stands before or after the point. -/
def readLiteral? (cs : List Char) : Option Literal :=
  let whole := cs.takeWhile Char.isDigit
  let afterWhole := cs.dropWhile Char.isDigit
  let (part, afterPart) :=
    match afterWhole with
    | '.' :: rest => (rest.takeWhile Char.isDigit, rest.dropWhile Char.isDigit)
    | rest => ([], rest)
  if whole.isEmpty && part.isEmpty then none
  else
    (readExponent? afterPart).map fun e =>
      { mantissa := Text.digitsValue (whole ++ part), exponent := e - (part.length : Int) }

/-- Reads a size: a word or a decimal number. -/
def readSize? (cs : List Char) : Option Float :=
  let word := cs.map Char.toLower
  if word == "inf".toList || word == "infinity".toList then some infinity
  else if word == "nan".toList then some notANumber
  else (readLiteral? cs).map fun d => nearestScaled d.mantissa d.exponent

/-- Reads a double. -/
def readDouble? : List Char → Option Float
  | '-' :: cs => (readSize? cs).map fun x => -x
  | '+' :: cs => readSize? cs
  | cs => readSize? cs

end DaqMonitor.Decimal
