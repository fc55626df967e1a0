/- Where string tokens end.  Quotes that follow the closing quote belong to the string as well, so
of two strings that stand side by side the first takes the quote that was to open the second. -/
import LoxLexer.Proofs.Document.Reading
import LoxLexer.Proofs.Finding.Quotes

namespace LoxLexer

/-! ### Quotes of a lexeme -/

theorem count_quote_of_unquoted {body : List Char} (unquoted : ∀ c ∈ body, c ≠ '"') :
    body.count '"' = 0 :=
  List.count_eq_zero.mpr fun quote => unquoted '"' quote rfl

theorem count_quote_string {body : List Char} (unquoted : ∀ c ∈ body, c ≠ '"')
    (furtherQuotes : Nat) :
    ('"' :: body ++ '"' :: List.replicate furtherQuotes '"').count '"' = furtherQuotes + 2 := by
  rw [List.cons_append, List.count_cons_self, List.count_append, count_quote_of_unquoted unquoted,
    List.count_cons_self, List.count_replicate_self]
  omega

theorem takeWhile_quotes {rest : List Char} (boundary : rest.head? ≠ some '"')
    (furtherQuotes : Nat) :
    (List.replicate furtherQuotes '"' ++ rest).takeWhile (· = '"') =
      List.replicate furtherQuotes '"' := by
  apply Text.takeWhile_run
  · intro c member
    exact decide_eq_true (List.eq_of_mem_replicate member)
  · rintro first later rfl
    exact decide_eq_false (by simpa using boundary)

theorem head?_quotes {rest : List Char} (boundary : rest.head? ≠ some '"')
    (furtherQuotes : Nat) :
    (List.replicate furtherQuotes '"' ++ rest).head? ≠ some '"' ↔ furtherQuotes = 0 := by
  cases furtherQuotes with
  | zero => simpa using boundary
  | succ count => simp [List.replicate_succ]

/-! ### Strings of a document -/

section

variable {document : Document} {settings : Settings} {token : Token}

theorem Document.exists_string_shape (member : token ∈ (document.report settings).tokens)
    (isString : token.kind = .string) :
    ∃ before body furtherQuotes rest,
      document.lines[token.line]? = some (before ++ token.lexeme.toList ++ rest) ∧
      token.column = before.length ∧ (∀ c ∈ body, c ≠ '"') ∧
      token.lexeme.toList = '"' :: body ++ '"' :: List.replicate furtherQuotes '"' ∧
      rest.head? ≠ some '"' := by
  obtain ⟨before, rest, numbered, columnEq, complete⟩ :=
    Document.exists_complete member (by simp [isString]) (by simp [isString])
  obtain ⟨body, furtherQuotes, unquoted, lexemeEq, boundary⟩ := complete.string_shape isString
  exact ⟨before, body, furtherQuotes, rest, numbered, columnEq, unquoted, lexemeEq, boundary⟩

theorem Document.quotes_around_string (member : token ∈ (document.report settings).tokens)
    (isString : token.kind = .string) {text : List Char}
    (numbered : document.lines[token.line]? = some text) :
    text[token.column]? = some '"' ∧ text[token.column + token.lexeme.length]? ≠ some '"' := by
  obtain ⟨before, body, furtherQuotes, rest, split, columnEq, -, lexemeEq, boundary⟩ :=
    Document.exists_string_shape member isString
  obtain rfl := Option.some.inj (numbered.symm.trans split)
  constructor
  · rw [columnEq, lexemeEq, List.append_assoc, List.getElem?_append_right (Nat.le_refl _),
      Nat.sub_self]
    rfl
  · rw [columnEq, ← String.length_toList, ← List.length_append,
      List.getElem?_append_right (Nat.le_refl _), Nat.sub_self, ← List.head?_eq_getElem?]
    exact boundary

end

/-- A string token goes on as long as quotes follow its first closing quote.  It has two
quotes exactly if none does, and no string starts where it ends. -/
theorem string_ends {document : Document} {settings : Settings} {token : Token}
    (member : token ∈ (document.report settings).tokens) (isString : token.kind = .string) :
    ∃ line body tail,
      document.lines[token.line]? = some line ∧
      line.drop token.column = '"' :: body ++ '"' :: tail ∧ '"' ∉ body ∧
      token.lexeme.toList = '"' :: body ++ '"' :: tail.takeWhile (· = '"') ∧
      (token.lexeme.toList.count '"' = 2 ↔ tail.head? ≠ some '"') ∧
      ∀ other ∈ (document.report settings).tokens, other.kind = .string →
        other.line = token.line → other.column ≠ token.column + token.lexeme.length := by
  obtain ⟨before, body, furtherQuotes, rest, numbered, columnEq, unquoted, lexemeEq, boundary⟩ :=
    Document.exists_string_shape member isString
  refine ⟨_, body, List.replicate furtherQuotes '"' ++ rest, numbered, ?_,
    fun quote => unquoted '"' quote rfl, ?_, ?_, ?_⟩
  · rw [columnEq, List.append_assoc, List.drop_left, lexemeEq, List.append_assoc]
    rfl
  · rw [takeWhile_quotes boundary, lexemeEq]
  · rw [head?_quotes boundary, lexemeEq, count_quote_string unquoted]
    omega
  · intro other otherMember otherString sameLine adjacent
    have otherNumbered := numbered
    rw [← sameLine] at otherNumbered
    have otherQuote := (Document.quotes_around_string otherMember otherString otherNumbered).1
    rw [adjacent] at otherQuote
    exact (Document.quotes_around_string member isString numbered).2 otherQuote

def adjacentStrings : Document :=
  { source := "\"a\"\"b\"", file := "shell" }

theorem string_ends_adjacentStrings :
    let token : Token :=
      { kind := .string, lexeme := "\"a\"\"", literal := .text "a\"", line := 0, column := 0 }
    token ∈ (adjacentStrings.report {}).tokens ∧ token.kind = .string ∧
      ∃ line body tail,
        adjacentStrings.lines[0]? = some line ∧
        line.drop 0 = '"' :: body ++ '"' :: tail ∧ '"' ∉ body ∧
        token.lexeme.toList = '"' :: body ++ '"' :: tail.takeWhile (· = '"') ∧
        (token.lexeme.toList.count '"' = 2 ↔ tail.head? ≠ some '"') ∧
        ∀ other ∈ (adjacentStrings.report {}).tokens, other.kind = .string →
          other.line = 0 → other.column ≠ 0 + token.lexeme.length := by
  intro token
  have member : token ∈ (adjacentStrings.report {}).tokens :=
    List.mem_of_getElem? (show (adjacentStrings.report {}).tokens[0]? = some token from rfl)
  exact ⟨member, rfl, string_ends member rfl⟩

/-- A string token with three quotes.  The rest of the second string is an identifier
and an open string. -/
theorem adjacentStrings_run_together :
    (¬ ∀ token ∈ (adjacentStrings.report {}).tokens, token.kind = .string →
      token.lexeme.toList.count '"' = 2) ∧
      (adjacentStrings.report {}).tokens.map (fun token => (token.kind, token.lexeme)) =
        [(.string, "\"a\"\""), (.identifier, "b"), (.endOfSource, "")] ∧
      (adjacentStrings.report {}).diagnostics =
        [{ fault := .unterminated "\""
           position := { line := 0, column := 5, file := "shell" } }] := by
  decide

end LoxLexer
