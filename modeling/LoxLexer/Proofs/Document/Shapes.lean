/- The lexemes and the literals of scanned tokens.  Any kind might go with any text, but not in a
token that was scanned. -/
import LoxLexer.Proofs.Decimal.Characters
import LoxLexer.Proofs.Document.Partition
import LoxLexer.Proofs.Finding.Quotes
import LoxLexer.Proofs.Lexeme.Spaced
import LoxLexer.Proofs.Text.Bytes

namespace LoxLexer

def Literal.ofScanned (kind : Kind) (lexeme : List Char) : Literal :=
  (Literal.ofLexeme? kind lexeme).getD (Literal.verbatim lexeme)

structure Token.Scanned (token : Token) : Prop where
  literal : token.literal = Literal.ofScanned token.kind token.lexeme.toList
  oneLine : '\n' ∉ token.lexeme.toList
  number : token.kind = .number → ' ' ∉ token.lexeme.toList
  string : token.kind = .string →
    ∃ content, token.lexeme.toList = '"' :: content ++ ['"']

/-! ### Tokens of a document -/

theorem Finding.literal_of_token? {index : Nat} {finding : Finding} {token : Token}
    (read : finding.token? index = some token) :
    token.literal = Literal.ofScanned token.kind token.lexeme.toList := by
  obtain ⟨column, found⟩ := finding
  cases found with
  | token kind lexeme =>
      cases read
      rw [String.toList_ofList, Literal.ofScanned]
  | comment text =>
      cases read
      rw [String.toList_ofList]
      rfl
  | fault fault => cases read

theorem FoundAt.lexeme_prefix {found : Found} {text lexeme : List Char}
    (foundAt : FoundAt found text) (read : found.lexeme? = some lexeme) : lexeme <+: text := by
  cases foundAt with
  | comment text =>
      cases read
      exact List.prefix_refl _
  | token complete =>
      cases read
      exact List.prefix_append _ _
  | openString unquoted => cases read
  | nothing notBlank mark unspelled => cases read

theorem Token.scanned_endOfSource (lineCount : Nat) : (Token.endOfSource lineCount).Scanned where
  literal := rfl
  oneLine := List.not_mem_nil
  number := fun _ => List.not_mem_nil
  string := by
    intro impossible
    cases impossible

theorem Document.scanned {document : Document} {settings : Settings} {token : Token}
    (member : token ∈ (document.report settings).tokens) : token.Scanned := by
  rw [document.tokens_eq, List.mem_append, List.mem_singleton] at member
  rcases member with inner | rfl
  · obtain ⟨index, line, finding, numbered, inLine, read⟩ :=
      Document.mem_readings.mp (List.mem_filter.mp inner).1
    have finds := Document.finds_of_numbered numbered
    have complete : token.kind ≠ .comment →
        ∃ rest, Lexeme.Complete token.kind token.lexeme.toList rest := by
      intro notComment
      obtain ⟨_, rest, -, -, complete⟩ :=
        finds.complete finding inLine _ _ (Finding.found_token read notComment)
      exact ⟨rest, complete⟩
    constructor
    · exact Finding.literal_of_token? read
    · obtain ⟨before, rest, rfl, -, foundAt⟩ := finds.stands finding inLine
      have inRest := (foundAt.lexeme_prefix (Finding.token?_eq_some read).2.2).subset
      intro feed
      exact Document.oneLine_of_numbered numbered (List.mem_append_right before (inRest feed))
    · intro isNumber space
      obtain ⟨rest, whole⟩ := complete (by simp [isNumber])
      have notBlank := whole.not_blank (by simp [isNumber]) ' ' space
      exact absurd notBlank (by decide)
    · intro isString
      obtain ⟨rest, whole⟩ := complete (by simp [isString])
      obtain ⟨body, furtherQuotes, -, lexemeEq, -⟩ := whole.string_shape isString
      exact ⟨_, lexemeEq.trans (Lexeme.stringOf_eq_enclosed body furtherQuotes)⟩
  · exact Token.scanned_endOfSource _

/-! ### Literals as text -/

namespace Token.Scanned

variable {token : Token}

theorem exists_content (scanned : token.Scanned) (isString : token.kind = .string) :
    ∃ content, token.lexeme.toList = '"' :: content ++ ['"'] ∧
      token.literal = Literal.verbatim content := by
  obtain ⟨content, enclosed⟩ := scanned.string isString
  refine ⟨content, enclosed, ?_⟩
  rw [scanned.literal, isString, enclosed, Literal.ofScanned, Literal.ofLexeme?_string]
  rfl

theorem literal_of_string (scanned : token.Scanned) (isString : token.kind = .string) :
    ∃ content, token.lexeme.toList = '"' :: content ++ ['"'] ∧
      token.literal.toString.toList = content := by
  obtain ⟨content, enclosed, literalEq⟩ := scanned.exists_content isString
  refine ⟨content, enclosed, ?_⟩
  rw [literalEq]
  simp [Literal.toString, Literal.verbatim]

theorem literal_eq_lexeme (scanned : token.Scanned) (notNumber : token.kind ≠ .number)
    (notString : token.kind ≠ .string) : token.literal = .text token.lexeme := by
  have verbatim : Literal.ofLexeme? token.kind token.lexeme.toList =
      some (Literal.verbatim token.lexeme.toList) := by
    cases kind : token.kind with
    | number => exact absurd kind notNumber
    | string => exact absurd kind notString
    | _ => rfl
  rw [scanned.literal, Literal.ofScanned, verbatim]
  simp [Literal.verbatim]

theorem literal_verbatim (scanned : token.Scanned) (notNumber : token.kind ≠ .number)
    (notString : token.kind ≠ .string) :
    token.literal.toString.toList = token.lexeme.toList := by
  rw [scanned.literal_eq_lexeme notNumber notString]
  rfl

theorem lineFeed_not_mem_literal (scanned : token.Scanned) :
    '\n' ∉ token.literal.toString.toList := by
  by_cases isNumber : token.kind = .number
  · rw [scanned.literal, isNumber, Literal.ofScanned, Literal.ofLexeme?]
    cases Decimal.readFloat? token.lexeme.toList with
    | none => simpa [Literal.toString, Literal.verbatim] using scanned.oneLine
    | some value =>
        simpa [Literal.toString] using Decimal.lineFeed_not_mem_writeFloat Literal.layout value
  · by_cases isString : token.kind = .string
    · obtain ⟨content, enclosed, written⟩ := scanned.literal_of_string isString
      have oneLine := scanned.oneLine
      rw [enclosed] at oneLine
      rw [written]
      exact fun feed => oneLine (List.mem_append_left _ (List.mem_cons_of_mem _ feed))
    · rw [scanned.literal_verbatim isNumber isString]
      exact scanned.oneLine

end Token.Scanned

end LoxLexer
