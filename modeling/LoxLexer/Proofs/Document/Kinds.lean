/- The kinds and the lexemes of scanned tokens determine each other. -/
import LoxLexer.Proofs.Document.Shapes
import LoxLexer.Proofs.Lexeme.Kinds
import LoxLexer.Proofs.Lexeme.Longest

namespace LoxLexer

open Lexeme (HasLexeme classOf commentMark)

section

variable {document : Document} {settings : Settings} {token : Token}

/-! ### Tokens without a class -/

theorem Document.eq_endOfSource (member : token ∈ (document.report settings).tokens)
    (isEnd : token.kind = .endOfSource) : token = Token.endOfSource document.lines.length := by
  rw [document.tokens_eq, List.mem_append, List.mem_singleton] at member
  rcases member with inner | last
  · have notEnd := (document.token_of_readings (List.mem_filter.mp inner).1).1
    exact absurd isEnd notEnd
  · exact last

theorem Document.exists_comment (member : token ∈ (document.report settings).tokens)
    (isComment : token.kind = .comment) :
    ∃ before text, document.lines[token.line]? = some (before ++ '/' :: '/' :: text) ∧
      token.column = before.length ∧ token.lexeme.toList = '/' :: '/' :: text := by
  obtain ⟨line, finding, numbered, inLine, read, -⟩ :=
    Document.exists_finding member (by simp [isComment])
  have finds := Document.finds_of_numbered numbered
  obtain ⟨before, rest, rfl, place, foundAt⟩ := finds.stands finding inLine
  rw [finds.found_comment inLine read isComment] at foundAt
  generalize token.lexeme.toList = lexeme at foundAt
  cases foundAt with
  | comment text =>
      refine ⟨before, text, numbered, ?_, rfl⟩
      rw [(Finding.token?_eq_some read).2.1, place, Nat.zero_add]

/-! ### All tokens -/

theorem Document.classOf_lexeme (member : token ∈ (document.report settings).tokens)
    (notEnd : token.kind ≠ .endOfSource) (notComment : token.kind ≠ .comment) :
    classOf token.lexeme.toList = .token token.kind := by
  obtain ⟨_, rest, -, -, complete⟩ := Document.exists_complete member notEnd notComment
  exact complete.classOf_eq (Document.scanned member).oneLine

theorem Document.hasLexeme (member : token ∈ (document.report settings).tokens) :
    HasLexeme token.kind token.lexeme.toList := by
  by_cases isEnd : token.kind = .endOfSource
  · rw [Document.eq_endOfSource member isEnd]
    exact .endOfSource
  · by_cases isComment : token.kind = .comment
    · obtain ⟨_, text, -, -, lexemeEq⟩ := Document.exists_comment member isComment
      rw [isComment, lexemeEq]
      exact .comment text
    · exact .classified (Document.classOf_lexeme member isEnd isComment)

end

structure Token.KindAgrees (token : Token) (document : Document) : Prop where
  classified : token.kind ≠ .comment → classOf token.lexeme.toList = .token token.kind
  comment : token.kind = .comment → commentMark.toList <+: token.lexeme.toList ∧
    ∃ before, document.lines[token.line]? = some (before ++ token.lexeme.toList) ∧
      token.column = before.length
  identifier : token.kind = .identifier → ∀ word : Keyword, token.lexeme ≠ word.spelling
  keyword : token.kind.isReserved = true ↔ ∃ word : Keyword, token.lexeme = word.spelling

theorem Lexeme.HasLexeme.isReserved_iff_spelling {kind : Kind} {lexeme : String}
    (has : HasLexeme kind lexeme.toList) :
    kind.isReserved = true ↔ ∃ word : Keyword, lexeme = word.spelling := by
  rw [has.isReserved_iff]
  exact exists_congr fun word => String.toList_inj

/-- A parser may go by the kind of a token or by its lexeme.  Only numbers, strings,
identifiers and comments have lexemes of their own. -/
theorem kind_agrees {document : Document} {settings : Settings} {token : Token}
    (member : token ∈ (document.report settings).tokens) :
    (token.kind ≠ .endOfSource → token.KindAgrees document) ∧
      ∀ (otherDocument : Document) (otherSettings : Settings),
        ∀ other ∈ (otherDocument.report otherSettings).tokens,
          (other.lexeme = token.lexeme → other.kind = token.kind) ∧
            (other.kind = token.kind →
              token.kind ∉ [.number, .string, .identifier, .comment] →
                other.lexeme = token.lexeme) := by
  have has := Document.hasLexeme member
  constructor
  · intro notEnd
    constructor
    case classified => exact Document.classOf_lexeme member notEnd
    case comment =>
      intro isComment
      obtain ⟨before, text, numbered, place, lexemeEq⟩ :=
        Document.exists_comment member isComment
      rw [lexemeEq]
      exact ⟨⟨text, rfl⟩, before, numbered, place⟩
    case identifier =>
      intro isIdentifier word spelled
      have reserved := has.isReserved_iff_spelling.mpr ⟨word, spelled⟩
      rw [isIdentifier] at reserved
      cases reserved
    case keyword => exact has.isReserved_iff_spelling
  · intro otherDocument otherSettings other otherMember
    have otherHas := Document.hasLexeme otherMember
    constructor
    · intro sameLexeme
      rw [sameLexeme] at otherHas
      exact otherHas.kind_unique has
    · intro sameKind spelled
      rw [sameKind] at otherHas
      exact String.toList_injective (otherHas.lexeme_unique has spelled)

def keywordSample : Document :=
  { source := "while whilst // while\n;while(", file := "shell" }

theorem kind_agrees_keywordSample :
    let settings : Settings := { withComments := false }
    let token : Token :=
      { kind := .keyword .while, lexeme := "while", literal := .text "while", line := 0,
        column := 0 }
    let other : Token :=
      { kind := .keyword .while, lexeme := "while", literal := .text "while", line := 1,
        column := 1 }
    token ∈ (keywordSample.report {}).tokens ∧ token.kind ≠ .endOfSource ∧
      token.KindAgrees keywordSample ∧
      other ∈ (keywordSample.report settings).tokens ∧ other.kind = token.kind ∧
      token.kind ∉ [.number, .string, .identifier, .comment] ∧ other.lexeme = token.lexeme := by
  intro settings token other
  have member : token ∈ (keywordSample.report {}).tokens :=
    List.mem_of_getElem? (show (keywordSample.report {}).tokens[0]? = some token from rfl)
  have otherMember : other ∈ (keywordSample.report settings).tokens :=
    List.mem_of_getElem? (show (keywordSample.report settings).tokens[3]? = some other from rfl)
  have notEnd : token.kind ≠ .endOfSource := by decide
  have spelled : token.kind ∉ [.number, .string, .identifier, .comment] := by decide
  obtain ⟨agrees, determines⟩ := kind_agrees member
  exact ⟨member, notEnd, agrees notEnd, otherMember, rfl, spelled,
    (determines keywordSample settings other otherMember).2 rfl spelled⟩

end LoxLexer
