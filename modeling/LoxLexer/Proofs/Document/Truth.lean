/- Every diagnostic tells the truth about its line: no token can start with an unrecognised
character, and no later quote closes an unterminated string. -/
import LoxLexer.Proofs.Document.Partition
import LoxLexer.Proofs.Finding.Quotes

namespace LoxLexer

/-- What a diagnostic of a report says about its line is so. -/
inductive Diagnostic.Truthful (report : Report) (text : List Char) : Diagnostic → Prop
  | unrecognised {position : Position} (c : Char) :
      text[position.column]? = some c →
      Text.isBlank c = false → c ≠ '"' →
      (∀ later, Lexeme.classOf (c :: later) = .unmatched) →
      Truthful report text { fault := .unrecognised (String.ofList [c]), position }
  | unterminated {position : Position} (body : List Char) :
      text.drop position.column = '"' :: body →
      (∀ c ∈ body, c ≠ '"') →
      (∀ column < position.column, text[column]? = some '"' →
        ∃ token ∈ report.tokens, token.kind = .string ∧ token.Covers position.line column) →
      (∀ token ∈ report.tokens, token.kind = .string → token.line = position.line →
        token.column ≤ position.column) →
      (∀ other ∈ report.diagnostics, other.position.line = position.line →
        (∃ rest, other.fault = .unterminated rest) →
          other = { fault := .unterminated (String.ofList ('"' :: body)), position }) →
      Truthful report text { fault := .unterminated (String.ofList ('"' :: body)), position }

/-! ### Tokens and findings -/

theorem Finding.token?_string {finding : Finding} {lexeme : List Char}
    (found : finding.found = .token .string lexeme) (index : Nat) :
    ∃ token, finding.token? index = some token ∧ token.kind = .string := by
  rw [Finding.token?, found]
  exact ⟨_, rfl, rfl⟩

theorem Finding.found_of_string {finding : Finding} {index : Nat} {token : Token}
    (read : finding.token? index = some token) (isString : token.kind = .string) :
    ∃ lexeme, finding.found = .token .string lexeme := by
  obtain ⟨column, found⟩ := finding
  cases found with
  | token kind lexeme =>
      cases read
      exact ⟨lexeme, congrArg (fun kind => Found.token kind lexeme) isString⟩
  | comment text =>
      cases read
      cases isString
  | fault fault => cases read

section

variable {document : Document} {settings : Settings}

theorem Document.exists_string {line column : Nat} {text : List Char} {finding : Finding}
    (numbered : document.lines[line]? = some text) (member : finding ∈ lineFindings text)
    {lexeme : List Char} (found : finding.found = .token .string lexeme)
    (covers : finding.Covers column) :
    ∃ token ∈ (document.report settings).tokens, token.kind = .string ∧
      token.Covers line column := by
  obtain ⟨token, read, isString⟩ := Finding.token?_string found line
  obtain ⟨lineEq, columnEq, -⟩ := Finding.token?_eq_some read
  have width := Finding.width_of_token? read
  have kept : settings.keeps token = true := by
    rw [Settings.keeps, Token.isComment, isString]
    simp
  refine ⟨token, ?_, isString, lineEq, ?_⟩
  · rw [document.tokens_eq]
    apply List.mem_append_left
    exact List.mem_filter.mpr
      ⟨Document.mem_readings.mpr ⟨line, text, finding, numbered, member, read⟩, kept⟩
  · rw [columnEq, ← width]
    exact covers

theorem Document.finding_of_string {token : Token}
    (member : token ∈ (document.report settings).tokens) (isString : token.kind = .string) :
    ∃ text finding lexeme, document.lines[token.line]? = some text ∧
      finding ∈ lineFindings text ∧ finding.found = .token .string lexeme ∧
      finding.column = token.column := by
  rw [document.tokens_eq, List.mem_append, List.mem_singleton] at member
  rcases member with inner | rfl
  · obtain ⟨index, text, finding, numbered, inLine, read⟩ :=
      Document.mem_readings.mp (List.mem_filter.mp inner).1
    obtain ⟨rfl, columnEq, -⟩ := Finding.token?_eq_some read
    obtain ⟨lexeme, found⟩ := Finding.found_of_string read isString
    exact ⟨text, finding, lexeme, numbered, inLine, found, columnEq.symm⟩
  · cases isString

/-! ### Truth -/

theorem Document.truthful_unrecognised {line column : Nat} {text : List Char} {found file : String}
    (numbered : document.lines[line]? = some text)
    (member : { column, found := .fault (.unrecognised found) } ∈ lineFindings text) :
    Diagnostic.Truthful (document.report settings) text
      { fault := .unrecognised found, position := { line, column, file } } := by
  obtain ⟨before, rest, rfl, place, foundAt⟩ :=
    (Document.finds_of_numbered numbered).stands _ member
  cases foundAt with
  | @nothing first rest notBlank mark unspelled =>
      have notQuote := (Lexeme.leadOf_eq_mark.mp mark).1
      refine .unrecognised first ?_ notBlank notQuote (Lexeme.classOf_startless mark unspelled)
      have columnEq : column = before.length := place.trans (Nat.zero_add before.length)
      change (before ++ first :: rest)[column]? = some first
      rw [columnEq, List.getElem?_append_right (Nat.le_refl _), Nat.sub_self]
      rfl

theorem Document.truthful_unterminated {line column : Nat} {text : List Char} {rest : String}
    (numbered : document.lines[line]? = some text)
    (member : { column, found := .fault (.unterminated rest) } ∈ lineFindings text) :
    Diagnostic.Truthful (document.report settings) text
      { fault := .unterminated rest, position := { line, column, file := document.file } } := by
  have finds := Document.finds_of_numbered numbered
  obtain ⟨body, split, unquoted, rfl⟩ := finds.openString_text member rfl
  refine .unterminated body split unquoted ?_ ?_ ?_
  · intro place before quote
    obtain ⟨string, stringMember, covers, lexeme, found⟩ :=
      finds.string_before member rfl before quote
    exact document.exists_string numbered stringMember found covers
  · intro token tokenMember isString sameLine
    obtain ⟨otherText, string, lexeme, otherNumbered, inLine, found, columnEq⟩ :=
      document.finding_of_string tokenMember isString
    rw [sameLine] at otherNumbered
    obtain rfl := Option.some.inj (numbered.symm.trans otherNumbered)
    rw [← columnEq]
    exact finds.string_not_after member rfl inLine found
  · rintro ⟨fault, position⟩ otherMember sameLine ⟨otherRest, otherFault⟩
    obtain ⟨otherText, other, otherNumbered, inLine, -, read⟩ :=
      Document.exists_finding_of_diagnostic otherMember rfl
    rw [sameLine] at otherNumbered read
    obtain rfl := Option.some.inj (numbered.symm.trans otherNumbered)
    have found := (Finding.diagnostic?_eq_some read).2
    rw [otherFault] at found
    rw [finds.openString_unique inLine member found rfl] at read
    exact (Option.some.inj read).symm

end

theorem diagnostics_truthful {document : Document} {settings : Settings} {diagnostic : Diagnostic}
    (member : diagnostic ∈ (document.report settings).diagnostics) :
    ∃ line, document.lines[diagnostic.position.line]? = some line ∧
      diagnostic.Truthful (document.report settings) line := by
  obtain ⟨index, line, finding, numbered, inLine, read⟩ := Document.mem_readings.mp member
  obtain ⟨column, found⟩ := finding
  cases found with
  | fault fault =>
      cases read
      refine ⟨line, numbered, ?_⟩
      cases fault with
      | unrecognised text => exact document.truthful_unrecognised numbered inLine
      | unterminated rest => exact document.truthful_unterminated numbered inLine
  | _ => cases read

def openStringSample : Document :=
  { source := "\"a\"\" \"b //", file := "shell" }

theorem diagnostics_truthful_openString :
    let diagnostic : Diagnostic :=
      { fault := .unterminated "\"b //", position := { line := 0, column := 5, file := "shell" } }
    diagnostic ∈ (openStringSample.report {}).diagnostics ∧
      ∃ line, openStringSample.lines[0]? = some line ∧
        diagnostic.Truthful (openStringSample.report {}) line := by
  intro diagnostic
  have member : diagnostic ∈ (openStringSample.report {}).diagnostics := by decide +revert
  exact ⟨member, diagnostics_truthful member⟩

end LoxLexer
