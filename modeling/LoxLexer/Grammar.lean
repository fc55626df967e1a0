/- The lines without faults, as a grammar.  A line is a sentence if it can be cut into pieces in
any way at all; no rule asks for the longest piece, except that a string takes every quote at its
end. -/
import LoxLexer.Kind
import LoxLexer.Lexeme.Pattern
import LoxLexer.Text.Blank

namespace LoxLexer.Grammar

/-- A piece that may stand before anything. -/
inductive Piece : List Char → Prop
  | blank (c : Char) : Text.isBlank c = true → Piece [c]
  | whole (digits : List Char) :
      digits ≠ [] → (∀ c ∈ digits, c.isDigit = true) → Piece digits
  | fraction (digits places : List Char) :
      digits ≠ [] → (∀ c ∈ digits, c.isDigit = true) →
      places ≠ [] → (∀ c ∈ places, c.isDigit = true) →
      Piece (digits ++ '.' :: places)
  | word (first : Char) (rest : List Char) :
      Lexeme.startsIdentifier first = true →
      (∀ c ∈ rest, Lexeme.continuesIdentifier c = true) → Piece (first :: rest)
  | symbol (symbol : Symbol) : Piece symbol.spelling.toList

inductive Sentence : List Char → Prop
  | empty : Sentence []
  | comment (text : List Char) : Sentence ('/' :: '/' :: text)
  | piece {text rest : List Char} :
      Piece text → Sentence rest → Sentence (text ++ rest)
  | string {body rest : List Char} (furtherQuotes : Nat) :
      (∀ c ∈ body, c ≠ '"') → rest.head? ≠ some '"' → Sentence rest →
      Sentence ('"' :: body ++ '"' :: List.replicate furtherQuotes '"' ++ rest)

end LoxLexer.Grammar
