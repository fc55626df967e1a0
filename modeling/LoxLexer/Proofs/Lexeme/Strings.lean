/- The shape of strings, the only lexemes that hold quotes. -/
import LoxLexer.Proofs.Lexeme.Growth

namespace LoxLexer

open Lexeme (Complete)

theorem Lexeme.Complete.eq_string_of_quote {kind : Kind} {lexeme rest : List Char}
    (complete : Complete kind lexeme rest) (quote : '"' ∈ lexeme) : kind = .string := by
  cases complete with
  | string furtherQuotes unquoted boundary => rfl
  | whole nonempty areDigits boundary noFraction => exact absurd (areDigits '"' quote) (by decide)
  | fraction nonempty areDigits placesNonempty arePlaces boundary =>
      rcases List.mem_append.mp quote with inDigits | inFraction
      · exact absurd (areDigits '"' inDigits) (by decide)
      · rcases List.mem_cons.mp inFraction with point | inPlaces
        · cases point
        · exact absurd (arePlaces '"' inPlaces) (by decide)
  | word starts continued boundary =>
      rcases List.mem_cons.mp quote with rfl | inLetters
      · exact absurd starts (by decide)
      · exact absurd (continued '"' inLetters) (by decide)
  | symbol symbol boundary =>
      revert quote
      cases symbol <;> decide

theorem Lexeme.wordKind_ne_string (word : List Char) : Lexeme.wordKind word ≠ .string := by
  unfold Lexeme.wordKind
  split <;> simp

/-- A whole string goes up to the last of the quotes that close it. -/
theorem Lexeme.Complete.string_shape {kind : Kind} {lexeme rest : List Char}
    (complete : Complete kind lexeme rest) (isString : kind = .string) :
    ∃ body furtherQuotes, (∀ c ∈ body, c ≠ '"') ∧
      lexeme = '"' :: body ++ '"' :: List.replicate furtherQuotes '"' ∧ rest.head? ≠ some '"' := by
  cases complete with
  | string furtherQuotes unquoted boundary => exact ⟨_, furtherQuotes, unquoted, rfl, boundary⟩
  | word starts continued boundary => exact absurd isString (Lexeme.wordKind_ne_string _)
  | _ => cases isString

namespace Lexeme

/-- The string with the given body.  One quote closes it, and further ones may follow. -/
def stringOf (body : List Char) (furtherQuotes : Nat) : List Char :=
  '"' :: body ++ '"' :: List.replicate furtherQuotes '"'

theorem length_stringOf (body : List Char) (furtherQuotes : Nat) :
    (stringOf body furtherQuotes).length = body.length + furtherQuotes + 2 := by
  simp only [stringOf, List.length_append, List.length_cons, List.length_replicate]
  omega

theorem stringOf_eq_enclosed (body : List Char) (furtherQuotes : Nat) :
    stringOf body furtherQuotes =
      '"' :: (body ++ List.replicate furtherQuotes '"') ++ ['"'] := by
  rw [stringOf, ← List.replicate_succ, List.replicate_succ']
  simp only [List.cons_append, List.append_assoc]

theorem getLast?_stringOf (body : List Char) (furtherQuotes : Nat) :
    (stringOf body furtherQuotes).getLast? = some '"' := by
  rw [stringOf_eq_enclosed, List.getLast?_concat]

theorem classOf_enclosed {content : List Char} (oneLine : '\n' ∉ content) :
    classOf ('"' :: content ++ ['"']) = .token .string := by
  have sameLine : (content ++ ['"']).all (· ≠ '\n') = true := by
    simp only [List.all_eq_true, List.mem_append, List.mem_singleton, decide_eq_true_eq]
    rintro c (inside | rfl)
    · rintro rfl
      exact oneLine inside
    · decide
  rw [List.cons_append, classOf_quote, isString_concat, sameLine]
  rfl

theorem classOf_unclosed (content : List Char) {last : Char} (notQuote : last ≠ '"') :
    classOf ('"' :: content ++ [last]) = .unmatched := by
  rw [List.cons_append, classOf_quote, isString_concat]
  simp [notQuote]

end Lexeme

end LoxLexer
