/- The literals of scanned tokens, which never fall back on the text of a lexeme that has a value. -/
import LoxLexer.Proofs.Decimal.Reading
import LoxLexer.Proofs.Document.Shapes

namespace LoxLexer

/-- Every lexeme of a line has a literal; the bytes that a string loses are its quotes. -/
theorem Lexeme.Complete.exists_literal {kind : Kind} {lexeme rest : List Char}
    (complete : Lexeme.Complete kind lexeme rest) :
    Literal.ofLexeme? kind lexeme = some (Literal.ofScanned kind lexeme) := by
  have read : ∃ literal, Literal.ofLexeme? kind lexeme = some literal := by
    by_cases isString : kind = .string
    · obtain ⟨body, furtherQuotes, -, lexemeEq, -⟩ := complete.string_shape isString
      have enclosed := lexemeEq.trans (Lexeme.stringOf_eq_enclosed body furtherQuotes)
      rw [isString, enclosed]
      exact ⟨_, Literal.ofLexeme?_string _⟩
    · cases kind with
      | string => exact absurd rfl isString
      | _ => exact ⟨_, rfl⟩
  obtain ⟨literal, read⟩ := read
  rw [Literal.ofScanned, read]
  rfl

/-- What the literal of a token is.  It never falls back on the text of a number. -/
structure Token.LiteralAgrees (token : Token) : Prop where
  number : token.kind = .number →
    ∃ numeral, Decimal.Numeral.ofText? token.lexeme.toList = some numeral ∧
      token.literal = .number numeral.toFloat
  string : token.kind = .string →
    ∃ content, token.lexeme = "\"" ++ content ++ "\"" ∧ token.literal = .text content
  verbatim : token.kind ≠ .number → token.kind ≠ .string → token.literal = .text token.lexeme
  decoded : Literal.ofLexeme? token.kind token.lexeme.toList = some token.literal

section

variable {document : Document} {settings : Settings} {token : Token}

theorem Document.literal_of_number (member : token ∈ (document.report settings).tokens)
    (isNumber : token.kind = .number) :
    ∃ numeral, Decimal.Numeral.ofText? token.lexeme.toList = some numeral ∧
      token.literal = .number numeral.toFloat := by
  obtain ⟨_, rest, -, -, complete⟩ :=
    Document.exists_complete member (by simp [isNumber]) (by simp [isNumber])
  obtain ⟨numeral, isNumeral, read⟩ := complete.exists_numeral isNumber
  refine ⟨numeral, isNumeral, ?_⟩
  rw [(Document.scanned member).literal, isNumber, Literal.ofScanned, Literal.ofLexeme?, read]
  rfl

theorem Token.Scanned.text_of_string (scanned : token.Scanned) (isString : token.kind = .string) :
    ∃ content, token.lexeme = "\"" ++ content ++ "\"" ∧ token.literal = .text content := by
  obtain ⟨content, enclosed, literalEq⟩ := scanned.exists_content isString
  refine ⟨String.ofList content, ?_, literalEq⟩
  apply String.toList_injective
  rw [enclosed]
  simp

theorem Document.literal_decoded (member : token ∈ (document.report settings).tokens) :
    Literal.ofLexeme? token.kind token.lexeme.toList = some token.literal := by
  rw [(Document.scanned member).literal]
  by_cases bearing : token.kind = .endOfSource ∨ token.kind = .comment
  · -- The end of a source and comments have no lexeme by the rules of a line.
    rcases bearing with isEnd | isComment
    · rw [isEnd]
      rfl
    · rw [isComment]
      rfl
  · obtain ⟨notEnd, notComment⟩ := not_or.mp bearing
    obtain ⟨_, rest, -, -, complete⟩ := Document.exists_complete member notEnd notComment
    exact complete.exists_literal

end

theorem Token.LiteralAgrees.hasValue_iff {token : Token} (agrees : token.LiteralAgrees) :
    token.hasValue = true ↔ token.literal ≠ .text token.lexeme := by
  rw [Token.hasValue, Bool.or_eq_true, decide_eq_true_eq, decide_eq_true_eq]
  constructor
  · rintro (isString | isNumber) same
    · obtain ⟨content, enclosed, literalEq⟩ := agrees.string isString
      -- The quotes make the lexeme longer than its content.
      have lengths := congrArg String.length (Literal.text.inj (literalEq.symm.trans same))
      rw [enclosed, String.length_append, String.length_append] at lengths
      have quoteLength : "\"".length = 1 := rfl
      omega
    · obtain ⟨numeral, -, literalEq⟩ := agrees.number isNumber
      rw [literalEq] at same
      cases same
  · intro different
    by_cases isString : token.kind = .string
    · exact .inl isString
    · by_cases isNumber : token.kind = .number
      · exact .inr isNumber
      · exact absurd (agrees.verbatim isNumber isString) different

/-- The literal of every scanned token follows from its lexeme, and the tokens with a value
of their own are those whose literal is another text or no text. -/
theorem literal_agrees {document : Document} {settings : Settings} {token : Token}
    (member : token ∈ (document.report settings).tokens) :
    token.LiteralAgrees ∧ (token.hasValue = true ↔ token.literal ≠ .text token.lexeme) := by
  have scanned := Document.scanned member
  have agrees : token.LiteralAgrees :=
    { number := Document.literal_of_number member
      string := scanned.text_of_string
      verbatim := scanned.literal_eq_lexeme
      decoded := Document.literal_decoded member }
  exact ⟨agrees, agrees.hasValue_iff⟩

def numberSample : Document :=
  { source := "é 007.50.5", file := "shell" }

theorem literal_agrees_numberSample :
    let numeral : Decimal.Numeral := { negative := false, significand := 750, exponent := -2 }
    let token : Token :=
      { kind := .number, lexeme := "007.50", literal := .number numeral.toFloat, line := 0,
        column := 2 }
    token ∈ (numberSample.report {}).tokens ∧ token.LiteralAgrees ∧
      (token.hasValue = true ↔ token.literal ≠ .text token.lexeme) := by
  intro numeral token
  have member : token ∈ (numberSample.report {}).tokens :=
    List.mem_of_getElem? (show (numberSample.report {}).tokens[0]? = some token from rfl)
  exact ⟨member, literal_agrees member⟩

end LoxLexer
