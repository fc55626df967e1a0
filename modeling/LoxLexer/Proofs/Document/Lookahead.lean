/- Edits at the end of a line leave the tokens before them alone, unless an open string looks
further. -/
import LoxLexer.Proofs.Document.Reading
import LoxLexer.Proofs.Finding.Front

namespace LoxLexer

open Lexeme (LookAlike)

/-! ### On one line -/

theorem Finds.column_lt {column : Nat} {text : List Char} {earlier later : List Finding}
    {finding : Finding} (finds : Finds column text (earlier ++ finding :: later)) :
    ∀ other ∈ earlier, other.column < finding.column := by
  intro other member
  have apart := (List.pairwise_append.mp finds.tiles.ordered).2.2 other member finding
    List.mem_cons_self
  have positive := (finds.tiles.bounds other (List.mem_append_left _ member)).2.1
  omega

/-- A token that ends two characters before the text is changed is found in the changed
text as well. -/
theorem Finds.exists_edited {start rest other : List Char} {findings : List Finding}
    (finds : Finds 0 (start ++ rest) findings) {finding : Finding} (member : finding ∈ findings)
    {kind : Kind} {lexeme : List Char} (found : finding.found = .token kind lexeme)
    (ends : finding.column + lexeme.length + 2 ≤ start.length)
    (closed : ∀ earlier ∈ findings, earlier.column < finding.column →
      ∀ text, earlier.found ≠ .fault (.unterminated text)) :
    ∃ edited, Finds 0 (start ++ other) edited ∧ finding ∈ edited := by
  obtain ⟨column, what⟩ := finding
  subst found
  obtain ⟨front, tail, earlier, later, split, rfl, place, before, foundAt, -⟩ :=
    finds.exists_before member
  simp only [Nat.zero_add] at place ends
  cases foundAt with
  | @token _ _ after complete =>
      -- The two texts share the lexeme and at least two characters after it.
      obtain ⟨bridge, rfl, rfl⟩ : ∃ bridge, start = front ++ lexeme ++ bridge ∧
          after = bridge ++ rest := by
        rw [← List.append_assoc] at split
        rcases List.append_eq_append_iff.mp split with
          ⟨missing, tooLong, -⟩ | ⟨bridge, shared, restEq⟩
        · have lengths := congrArg List.length tooLong
          simp only [List.length_append] at lengths
          omega
        · exact ⟨bridge, shared, restEq⟩
      have long : 2 ≤ bridge.length := by
        simp only [List.length_append] at ends
        omega
      have earlierClosed : WithoutOpenString earlier := by
        intro other inEarlier
        exact closed other (List.mem_append_left _ inEarlier) (finds.column_lt other inEarlier)
      have edited : FindsBefore (lexeme ++ (bridge ++ other)) 0 front earlier := by
        apply before.of_lookAlike earlierClosed
        intro more
        have longer : 2 ≤ (more ++ lexeme ++ bridge).length := by
          simp only [List.length_append]
          omega
        simpa only [List.append_assoc] using LookAlike.of_front longer rest other
      have stillWhole := complete.of_lookAlike (LookAlike.of_front long rest other)
      obtain ⟨further, furtherFinds⟩ := exists_finds (column + lexeme.length) (bridge ++ other)
      refine ⟨earlier ++ { column, found := .token kind lexeme } :: further, ?_, ?_⟩
      · have whole := edited.append (.token stillWhole furtherFinds) (by omega)
        simpa only [List.append_assoc] using whole
      · exact List.mem_append_right _ List.mem_cons_self

/-! ### In a document -/

theorem Document.lines_append {start rest : String}
    (startPlain : ∀ c ∈ start.toList, c ≠ '\n' ∧ c ≠ '\r')
    (restPlain : ∀ c ∈ rest.toList, c ≠ '\n' ∧ c ≠ '\r') (file : String) :
    Document.lines { source := start ++ rest, file } = [start.toList ++ rest.toList] := by
  rw [Document.lines, String.toList_append]
  apply Text.lines_of_forall
  intro c member
  rcases List.mem_append.mp member with inStart | inRest
  · exact startPlain c inStart
  · exact restPlain c inRest

/-- Tokens that end at least two characters before the place where two texts part are
tokens of both, unless an open string starts before them. -/
theorem token_of_edited_end {start rest other : String}
    (plain : ∀ text ∈ [start, rest, other], ∀ c ∈ text.toList, c ≠ '\n' ∧ c ≠ '\r')
    (file : String) (settings : Settings) {token : Token}
    (member : token ∈ (Document.report { source := start ++ rest, file } settings).tokens)
    (notEnd : token.kind ≠ .endOfSource) (notComment : token.kind ≠ .comment)
    (ends : token.column + token.lexeme.length + 2 ≤ start.length)
    (closed : ∀ diagnostic ∈
        (Document.report { source := start ++ rest, file } settings).diagnostics,
      (∃ text, diagnostic.fault = .unterminated text) →
        token.column ≤ diagnostic.position.column) :
    token ∈ (Document.report { source := start ++ other, file } settings).tokens := by
  have startPlain := plain start (by simp)
  have restPlain := plain rest (by simp)
  have otherPlain := plain other (by simp)
  obtain ⟨line, finding, numbered, inLine, read, kept⟩ := Document.exists_finding member notEnd
  have inside := numbered
  rw [Document.lines_append startPlain restPlain] at inside
  obtain ⟨lineZero, rfl⟩ : token.line = 0 ∧ start.toList ++ rest.toList = line := by
    simpa [List.getElem?_singleton] using inside
  have columnEq := (Finding.token?_eq_some read).2.1
  have found := Finding.found_token read notComment
  have findsRest := Document.finds_of_numbered numbered
  have findingClosed : ∀ earlier ∈ lineFindings (start.toList ++ rest.toList),
      earlier.column < finding.column → ∀ text, earlier.found ≠ .fault (.unterminated text) := by
    intro earlier earlierInLine before text isOpen
    have notBefore := closed _ (Document.mem_diagnostics numbered earlierInLine isOpen settings)
      ⟨text, rfl⟩
    simp only at notBefore
    omega
  rw [columnEq, ← String.length_toList, ← start.length_toList] at ends
  obtain ⟨edited, findsEdited, inEdited⟩ :
      ∃ edited, Finds 0 (start.toList ++ other.toList) edited ∧ finding ∈ edited :=
    findsRest.exists_edited inLine found ends findingClosed
  have numberedOther : (Document.lines { source := start ++ other, file })[token.line]? =
      some (start.toList ++ other.toList) := by
    rw [Document.lines_append startPlain otherPlain, lineZero]
    rfl
  have sameFindings := findsEdited.findingsFrom_eq (Document.oneLine_of_numbered numberedOther)
  exact Document.mem_tokens numberedOther (by rwa [lineFindings, sameFindings]) read kept

theorem token_of_edited_end_number :
    let token : Token :=
      { kind := .number
        lexeme := "1"
        literal := (Literal.ofLexeme? .number ['1']).getD (Literal.verbatim ['1'])
        line := 0
        column := 0 }
    token ∈ (Document.report { source := "1.a" ++ " \"b", file := "shell" } {}).tokens ∧
      token.column + token.lexeme.length + 2 ≤ "1.a".length ∧
      token ∈ (Document.report { source := "1.a" ++ "5\" 2", file := "shell" } {}).tokens := by
  intro token
  have plain : ∀ text ∈ ["1.a", " \"b", "5\" 2"], ∀ c ∈ text.toList, c ≠ '\n' ∧ c ≠ '\r' := by
    simp
  have member :
      token ∈ (Document.report { source := "1.a" ++ " \"b", file := "shell" } {}).tokens :=
    List.mem_of_getElem? (show _[0]? = some token from rfl)
  have ends : token.column + token.lexeme.length + 2 ≤ "1.a".length := by decide
  refine ⟨member, ends, token_of_edited_end plain "shell" {} member (by decide) (by decide) ends ?_⟩
  intro diagnostic _ _
  exact Nat.zero_le _

example :
    let lexemes := fun source =>
      (Document.report { source, file := "shell" } {}).tokens.map (·.lexeme)
    lexemes ("1." ++ "a") = ["1", ".", "a", ""] ∧ lexemes ("1." ++ "5") = ["1.5", ""] := by
  decide

end LoxLexer
