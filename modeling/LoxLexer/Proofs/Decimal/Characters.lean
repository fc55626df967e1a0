/- The characters of written numbers, none of which ends a line. -/
import LoxLexer.Decimal.Layout

namespace LoxLexer

theorem not_mem_toDigits {c : Char} (notDigit : c.isDigit = false) (number : Nat) :
    c ∉ Nat.toDigits 10 number := by
  intro member
  rw [Nat.isDigit_of_mem_toDigits (by decide) (by decide) member] at notDigit
  cases notDigit

namespace Decimal

variable {c : Char}

theorem not_mem_positional {digits : List Char} (notDigit : c ∉ digits) (notZero : c ≠ '0')
    (notPoint : c ≠ '.') (exponent : Int) : c ∉ positional digits exponent := by
  unfold positional
  extract_lets whole places padded fraction
  have notPadded : c ∉ padded := by simp [padded, whole, notDigit, notZero]
  have notFraction : c ∉ fraction := fun member => notPadded (List.mem_of_mem_drop member)
  intro member
  rcases List.mem_append.mp member with before | after
  · exact notPadded (List.mem_of_mem_take before)
  · rcases List.mem_cons.mp after with point | inPlaces
    · exact notPoint point
    · split at inPlaces
      · exact notZero (List.mem_singleton.mp inPlaces)
      · exact notFraction inPlaces

theorem not_mem_scientific {digits : List Char} (notDigit : c ∉ digits) (notPoint : c ≠ '.')
    (notMinus : c ≠ '-') (notMark : c ≠ 'e') (leading : Int)
    (notExponent : c ∉ Nat.toDigits 10 leading.natAbs) : c ∉ scientific digits leading := by
  have notSign : c ∉ if leading < 0 then ['-'] else [] := by
    split <;> simp [notMinus]
  unfold scientific
  split
  · simp_all
  · simp_all

theorem lineFeed_not_mem_write (layout : Layout) (numeral : Numeral) :
    '\n' ∉ layout.write numeral := by
  have notDigit := fun number => not_mem_toDigits (c := '\n') (by decide) number
  have notSign : '\n' ∉ if numeral.negative then ['-'] else [] := by
    split <;> decide
  unfold Layout.write
  extract_lets digits leading sign
  split
  · have inner := not_mem_positional (notDigit numeral.significand) (by decide) (by decide)
      numeral.exponent
    simp [sign, notSign, inner, digits]
  · have inner := not_mem_scientific (notDigit numeral.significand) (by decide) (by decide)
      (by decide) leading (notDigit _)
    simp [sign, notSign, inner, digits]

theorem lineFeed_not_mem_writeFloat (layout : Layout) (value : Float) :
    '\n' ∉ layout.writeFloat value := by
  unfold Layout.writeFloat
  split
  · decide
  · split
    · split <;> decide
    · exact lineFeed_not_mem_write layout _

end Decimal

end LoxLexer
