/- Numbers of the lexer as decimal numerals, without a sign and without an exponent. -/
import LoxLexer.Decimal.Numeral
import LoxLexer.Proofs.Lexeme.Opens

namespace LoxLexer

open Text (StartsOutside)

namespace Decimal

theorem dropSign_of_digit {first : Char} (digit : first.isDigit = true) (rest : List Char) :
    dropSign (first :: rest) = first :: rest := by
  have notMinus : first ≠ '-' := Text.ne_of_class digit rfl
  have notPlus : first ≠ '+' := Text.ne_of_class digit rfl
  unfold dropSign
  split <;> simp_all

theorem hasMinus_of_digit {first : Char} (digit : first.isDigit = true) (rest : List Char) :
    hasMinus (first :: rest) = false := by
  have notMinus : first ≠ '-' := Text.ne_of_class digit rfl
  simp [hasMinus, notMinus]

theorem Numeral.ofText?_digits {digits rest : List Char} (nonempty : digits ≠ [])
    (areDigits : ∀ c ∈ digits, c.isDigit = true) (boundary : StartsOutside Char.isDigit rest) :
    Numeral.ofText? (digits ++ rest) =
      (exponent? (dropFraction rest)).map fun exponent =>
        { negative := false
          significand := digitsValue (digits ++ fractionDigits rest)
          exponent := exponent - (fractionDigits rest).length } := by
  have whole := Text.takeWhile_run areDigits boundary
  have after := Text.dropWhile_run areDigits boundary
  obtain ⟨first, more, rfl⟩ := List.exists_cons_of_ne_nil nonempty
  have digit := areDigits first List.mem_cons_self
  rw [List.cons_append] at whole after ⊢
  rw [Numeral.ofText?, dropSign_of_digit digit, hasMinus_of_digit digit, whole, after]
  simp

theorem Numeral.ofText?_whole {digits : List Char} (nonempty : digits ≠ [])
    (areDigits : ∀ c ∈ digits, c.isDigit = true) :
    Numeral.ofText? digits =
      some { negative := false, significand := digitsValue digits, exponent := 0 } := by
  have parts := Numeral.ofText?_digits nonempty areDigits Text.startsOutside_nil
  simpa [fractionDigits, dropFraction, exponent?] using parts

theorem Numeral.ofText?_fraction {digits places : List Char} (nonempty : digits ≠ [])
    (areDigits : ∀ c ∈ digits, c.isDigit = true)
    (arePlaces : ∀ c ∈ places, c.isDigit = true) :
    Numeral.ofText? (digits ++ '.' :: places) =
      some
        { negative := false
          significand := digitsValue (digits ++ places)
          exponent := -places.length } := by
  have point : StartsOutside Char.isDigit ('.' :: places) :=
    Text.startsOutside_cons.mpr (by decide)
  have parts := Numeral.ofText?_digits nonempty areDigits point
  have taken := Text.takeWhile_run arePlaces Text.startsOutside_nil
  have dropped := Text.dropWhile_run arePlaces Text.startsOutside_nil
  rw [List.append_nil] at taken dropped
  rw [parts, fractionDigits, dropFraction, taken, dropped]
  simp [exponent?]

end Decimal

/-- A number lexeme is a numeral, and so it is read as a float. -/
theorem Lexeme.Complete.exists_numeral {kind : Kind} {lexeme rest : List Char}
    (complete : Lexeme.Complete kind lexeme rest) (isNumber : kind = .number) :
    ∃ numeral, Decimal.Numeral.ofText? lexeme = some numeral ∧
      Decimal.readFloat? lexeme = some numeral.toFloat := by
  have read {numeral : Decimal.Numeral} (isNumeral : Decimal.Numeral.ofText? lexeme = some numeral) :
      Decimal.readFloat? lexeme = some numeral.toFloat := by
    rw [Decimal.readFloat?, isNumeral]
    rfl
  cases complete with
  | whole nonempty areDigits boundary noFraction =>
      have isNumeral := Decimal.Numeral.ofText?_whole nonempty areDigits
      exact ⟨_, isNumeral, read isNumeral⟩
  | fraction nonempty areDigits placesNonempty arePlaces boundary =>
      have isNumeral := Decimal.Numeral.ofText?_fraction nonempty areDigits arePlaces
      exact ⟨_, isNumeral, read isNumeral⟩
  | word starts continued boundary =>
      unfold Lexeme.wordKind at isNumber
      split at isNumber <;> cases isNumber
  | string furtherQuotes unquoted boundary => cases isNumber
  | symbol symbol boundary => cases isNumber

end LoxLexer
