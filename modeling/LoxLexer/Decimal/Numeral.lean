/- Decimal numerals and the binary floats they denote.  The text of a numeral may have a sign, a
point and an exponent; infinities and the value that is no number are words.  Its float is the
nearest one, the even neighbour on a tie, an infinity above the finite range. -/

namespace LoxLexer.Decimal

/-- The number `significand · 10 ^ exponent`, with a sign that zero has too. -/
structure Numeral where
  negative : Bool
  significand : Nat
  exponent : Int
  deriving DecidableEq

def infinity : Float := Float.ofBits 0x7FF0000000000000

def notANumber : Float := Float.ofBits 0x7FF8000000000000

/-! ### Reading -/

def dropSign : List Char → List Char
  | '-' :: rest => rest
  | '+' :: rest => rest
  | unsigned => unsigned

def hasMinus (text : List Char) : Bool :=
  text.head? = some '-'

def digitsValue (digits : List Char) : Nat :=
  digits.foldl (fun value c => 10 * value + (c.toNat - '0'.toNat)) 0

def exponent? : List Char → Option Int
  | [] => some 0
  | mark :: rest =>
      let digits := dropSign rest
      if (mark = 'e' || mark = 'E') && !digits.isEmpty && digits.all Char.isDigit then
        some (if hasMinus rest then -(digitsValue digits : Int) else digitsValue digits)
      else none

def fractionDigits : List Char → List Char
  | '.' :: rest => rest.takeWhile Char.isDigit
  | _ => []

def dropFraction : List Char → List Char
  | '.' :: rest => rest.dropWhile Char.isDigit
  | rest => rest

def Numeral.ofText? (text : List Char) : Option Numeral :=
  let unsigned := dropSign text
  let whole := unsigned.takeWhile Char.isDigit
  let afterWhole := unsigned.dropWhile Char.isDigit
  let fraction := fractionDigits afterWhole
  if whole.isEmpty && fraction.isEmpty then none
  else
    (exponent? (dropFraction afterWhole)).map fun exponent =>
      { negative := hasMinus text
        significand := digitsValue (whole ++ fraction)
        exponent := exponent - fraction.length }

def word? (text : List Char) : Option Float :=
  let word := (dropSign text).map Char.toLower
  if word = "inf".toList || word = "infinity".toList then
    some (if hasMinus text then -infinity else infinity)
  else if word = "nan".toList then some notANumber
  else none

/-! ### Rounding -/

/-- The exponent of the leading digit, plus one: the magnitude of a numeral other
than zero lies below `10 ^ numeral.reach` and is at least a tenth of it. -/
def Numeral.reach (numeral : Numeral) : Int :=
  (Nat.toDigits 10 numeral.significand).length + numeral.exponent

/-- The float nearest to the magnitude of a numeral.  Every finite float is below
`10 ^ 309`, and half of the least positive one is above `10 ^ (-324)`. -/
def Numeral.magnitude (numeral : Numeral) : Float :=
  if numeral.significand = 0 || numeral.reach < -324 then 0
  else if 310 < numeral.reach then infinity
  else if 0 ≤ numeral.exponent then
    Float.ofScientific numeral.significand false numeral.exponent.toNat
  else Float.ofScientific numeral.significand true (-numeral.exponent).toNat

def Numeral.toFloat (numeral : Numeral) : Float :=
  if numeral.negative then -numeral.magnitude else numeral.magnitude

def readFloat? (text : List Char) : Option Float :=
  ((Numeral.ofText? text).map Numeral.toFloat).or (word? text)

end LoxLexer.Decimal
