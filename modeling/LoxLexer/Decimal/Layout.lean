/- Layouts of a decimal numeral: positional, with at least one digit on both sides of the point,
or with an exponent after its digits. -/
import LoxLexer.Decimal.Shortest

namespace LoxLexer.Decimal

/-- The least and the greatest exponent of the leading digit for which a numeral
is written positionally. -/
structure Layout where
  leastPositional : Int
  greatestPositional : Int

/-- The digits with a point before the last `places` ones.  Zeros are added on
either side where the digits do not reach the point. -/
def positional (digits : List Char) (exponent : Int) : List Char :=
  let whole := digits ++ List.replicate exponent.toNat '0'
  let places := (-exponent).toNat
  let padded := List.replicate (places + 1 - whole.length) '0' ++ whole
  let fraction := padded.drop (padded.length - places)
  padded.take (padded.length - places) ++ '.' :: (if fraction.isEmpty then ['0'] else fraction)

/-- One digit before the point, the others after it, and the exponent.  A single
digit has no point. -/
def scientific (digits : List Char) (leading : Int) : List Char :=
  let mantissa :=
    match digits with
    | first :: second :: rest => first :: '.' :: second :: rest
    | single => single
  let sign := if leading < 0 then ['-'] else []
  mantissa ++ 'e' :: sign ++ Nat.toDigits 10 leading.natAbs

def Layout.write (layout : Layout) (numeral : Numeral) : List Char :=
  let digits := Nat.toDigits 10 numeral.significand
  let leading := numeral.reach - 1
  let sign := if numeral.negative then ['-'] else []
  if layout.leastPositional ≤ leading && leading ≤ layout.greatestPositional then
    sign ++ positional digits numeral.exponent
  else sign ++ scientific digits leading

def Layout.writeFloat (layout : Layout) (value : Float) : List Char :=
  if value.isNaN then "NaN".toList
  else if value.isInf then (if value < 0 then "-inf" else "inf").toList
  else layout.write (Numeral.ofFloat value)

end LoxLexer.Decimal
