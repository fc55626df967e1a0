/- The shortest numeral that reads back to a float.  The reals that round to a float fill an
interval, which contains its ends if the mantissa is even.  The shortest numeral is the first one
in it when the decimal grids are tried from the coarsest to the finest. -/
import LoxLexer.Decimal.Numeral

namespace LoxLexer.Decimal

structure Binary where
  mantissa : Nat
  exponent : Int
  deriving DecidableEq

def leastExponent : Int := -1074

/-- The magnitude that the lower sixty-three bits of a finite float stand for. -/
def Binary.ofBits (bits : Nat) : Binary :=
  let fraction := bits % Nat.pow 2 52
  let biased : Nat := bits / Nat.pow 2 52 % Nat.pow 2 11
  if biased = 0 then { mantissa := fraction, exponent := leastExponent }
  else { mantissa := fraction + Nat.pow 2 52, exponent := leastExponent + biased - 1 }

/-- The reals around a float that round to it, as numerators over one
denominator. -/
structure Interval where
  lower : Nat
  value : Nat
  upper : Nat
  denominator : Nat
  closed : Bool

/-- The ends lie half-way to the neighbouring floats.  The neighbour below a power
of two is only half as far away as the one above, unless the two have the least
exponent. -/
def Binary.interval (binary : Binary) : Interval :=
  let below :=
    if binary.mantissa = Nat.pow 2 52 && leastExponent < binary.exponent then 1 else 2
  let scale := Nat.pow 2 (binary.exponent - 2).toNat
  { lower := (4 * binary.mantissa - below) * scale
    value := 4 * binary.mantissa * scale
    upper := (4 * binary.mantissa + 2) * scale
    denominator := Nat.pow 2 (2 - binary.exponent).toNat
    closed := binary.mantissa % 2 = 0 }

def Interval.onScale (power : Int) (numerator : Nat) : Nat :=
  numerator * Nat.pow 10 (-power).toNat

def Interval.step (interval : Interval) (power : Int) : Nat :=
  interval.denominator * Nat.pow 10 power.toNat

def Interval.contains (interval : Interval) (power : Int) (multiple : Nat) : Bool :=
  let point := multiple * interval.step power
  let lower := onScale power interval.lower
  let upper := onScale power interval.upper
  if interval.closed then lower ≤ point && point ≤ upper
  else lower < point && point < upper

/-- The multiple of `10 ^ power` in the interval that is nearest to the value.
Of two equally near ones it is the greater. -/
def Interval.nearest? (interval : Interval) (power : Int) : Option Nat :=
  let step := interval.step power
  let value := onScale power interval.value
  let below := value / step
  let candidates := [below, below + 1].filter (interval.contains power)
  match candidates with
  | [] => none
  | [candidate] => some candidate
  | _ => some (if value - below * step < (below + 1) * step - value then below else below + 1)

def Interval.reach (interval : Interval) : Int :=
  if interval.denominator ≤ interval.value then
    (Nat.toDigits 10 (interval.value / interval.denominator)).length
  else 1 - (Nat.toDigits 10 ((interval.denominator - 1) / interval.value)).length

/-- Seventeen digits tell all floats apart. -/
def greatestDigitCount : Nat := 17

def Numeral.dropZeros (numeral : Numeral) : Numeral :=
  if numeral.significand = 0 then { numeral with exponent := 0 }
  else
    let zeros :=
      ((Nat.toDigits 10 numeral.significand).reverse.takeWhile (· = '0')).length
    { numeral with
      significand := numeral.significand / Nat.pow 10 zeros
      exponent := numeral.exponent + zeros }

def Binary.exact (binary : Binary) : Numeral :=
  { negative := false
    significand :=
      binary.mantissa * Nat.pow 2 binary.exponent.toNat * Nat.pow 5 (-binary.exponent).toNat
    exponent := min binary.exponent 0 }

def Binary.shortest (binary : Binary) : Numeral :=
  let interval := binary.interval
  let found := (List.range greatestDigitCount).findSome? fun (index : Nat) =>
    let power := interval.reach - (index + 1)
    (interval.nearest? power).map fun multiple =>
      { negative := false, significand := multiple, exponent := power : Numeral }
  (found.getD binary.exact).dropZeros

/-- The shortest numeral that reads back to a finite float, with its sign. -/
def Numeral.ofFloat (value : Float) : Numeral :=
  let bits := value.toBits.toNat
  let binary := Binary.ofBits bits
  let magnitude :=
    if binary.mantissa = 0 then { negative := false, significand := 0, exponent := 0 }
    else binary.shortest
  { magnitude with negative := Nat.pow 2 63 ≤ bits }

end LoxLexer.Decimal
