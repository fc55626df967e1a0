/- Nothing but its own token depends on what a string or a comment contains, unless an open string
before a comment goes up to the end of the line. -/
import LoxLexer.Proofs.Document.Partition
import LoxLexer.Proofs.Finding.Front
import LoxLexer.Proofs.Finding.Quotes
import LoxLexer.Proofs.Text.Bytes
import LoxLexer.Proofs.Text.Place

namespace LoxLexer

open Lexeme (LookAlike stringOf)

/-! ### On one line -/

theorem Lexeme.literal_stringOf (body : List Char) (furtherQuotes : Nat) :
    Literal.ofLexeme? .string (stringOf body furtherQuotes) =
      some (Literal.verbatim (body ++ List.replicate furtherQuotes '"')) := by
  rw [Lexeme.stringOf_eq_enclosed, Literal.ofLexeme?_string]

section

variable {line : List Char} {findings : List Finding} {finding : Finding}

/-- A string may have any other body of the same length. -/
theorem Finds.exists_string_exchange (finds : Finds 0 line findings) (member : finding ∈ findings)
    {lexeme : List Char} (found : finding.found = .token .string lexeme) :
    ∃ front body furtherQuotes rest earlier later, '"' ∉ body ∧
      lexeme = stringOf body furtherQuotes ∧ line = front ++ lexeme ++ rest ∧
      finding.column = front.length ∧ findings = earlier ++ finding :: later ∧
      ∀ other : List Char, other.length = body.length → '"' ∉ other →
        Finds 0 (front ++ stringOf other furtherQuotes ++ rest)
          (earlier ++
            { finding with found := .token .string (stringOf other furtherQuotes) } :: later) := by
  obtain ⟨column, what⟩ := finding
  subst found
  obtain ⟨front, tail, earlier, later, rfl, rfl, place, before, foundAt, findsLater⟩ :=
    finds.exists_before member
  cases foundAt with
  | @token _ _ rest complete =>
      obtain ⟨body, furtherQuotes, unquoted, rfl, boundary⟩ := complete.string_shape rfl
      rw [Finding.width_of_lexeme rfl, List.drop_left] at findsLater
      refine ⟨front, body, furtherQuotes, rest, earlier, later,
        fun quote => unquoted '"' quote rfl, rfl, (List.append_assoc ..).symm,
        by rw [place, Nat.zero_add], rfl, ?_⟩
      intro other sameLength noQuote
      have width :
          (stringOf other furtherQuotes).length = (stringOf body furtherQuotes).length := by
        rw [Lexeme.length_stringOf, Lexeme.length_stringOf, sameLength]
      have whole : Lexeme.Complete .string (stringOf other furtherQuotes) rest :=
        .string furtherQuotes (fun c inOther isQuote => noQuote (isQuote ▸ inOther)) boundary
      -- The first quote is all that anything before the string may look at.
      have edited : FindsBefore (stringOf other furtherQuotes ++ rest) 0 front earlier := by
        apply before.of_lookAlike (before.withoutOpenString List.mem_cons_self)
        exact fun more => LookAlike.of_mark (by decide) more _ _
      rw [List.append_assoc]
      exact edited.append (.token whole (by rwa [width])) place

/-- A comment may have any other text, if no string before it is open. -/
theorem Finds.exists_comment_exchange (finds : Finds 0 line findings) (member : finding ∈ findings)
    {lexeme : List Char} (found : finding.found = .comment lexeme)
    (closed : WithoutOpenString findings) :
    ∃ front text earlier, lexeme = '/' :: '/' :: text ∧ line = front ++ lexeme ∧
      finding.column = front.length ∧ findings = earlier ++ [finding] ∧
      ∀ other : List Char,
        Finds 0 (front ++ '/' :: '/' :: other)
          (earlier ++ [{ finding with found := .comment ('/' :: '/' :: other) }]) := by
  obtain ⟨column, what⟩ := finding
  subst found
  obtain ⟨front, tail, earlier, later, rfl, rfl, place, before, foundAt, findsLater⟩ :=
    finds.exists_before member
  cases foundAt with
  | comment text =>
      rw [Finding.width_of_lexeme rfl, List.drop_length] at findsLater
      obtain rfl : [] = later := findsLater.findingsFrom_eq List.not_mem_nil
      refine ⟨front, text, earlier, rfl, rfl, by rw [place, Nat.zero_add], rfl, ?_⟩
      intro other
      have edited := before.of_lookAlike
        (fun finding inEarlier => closed finding (List.mem_append_left _ inEarlier))
        fun more => LookAlike.of_mark (by decide) more ('/' :: text) ('/' :: other)
      exact edited.append (.comment column other) place

end

/-! ### In a document -/

/-- The second report has another token in place of one, and all else of the first. -/
structure Report.Exchanges (report other : Report) (token newToken : Token) : Prop where
  tokens : ∃ earlier later, report.tokens = earlier ++ token :: later ∧
    other.tokens = earlier ++ newToken :: later
  diagnostics : other.diagnostics = report.diagnostics

theorem exists_around_reading {α : Type} (read : Nat → Finding → Option α)
    (above below : List (List Finding)) (earlier later : List Finding) :
    ∃ first last, ∀ finding,
      readings read (above ++ (earlier ++ finding :: later) :: below) =
        first ++ (read above.length finding).toList ++ last := by
  refine ⟨readings read above ++ earlier.filterMap (read above.length),
    later.filterMap (read above.length) ++
      (below.zipIdx (above.length + 1)).flatMap fun numbered =>
        numbered.1.filterMap (read numbered.2), ?_⟩
  intro finding
  simp only [readings, List.zipIdx_append, List.flatMap_append, List.zipIdx_cons,
    List.flatMap_cons, List.filterMap_append, filterMap_cons_eq_append, Nat.zero_add,
    List.append_assoc]

theorem Document.exchanges {document other : Document} (sameFile : other.file = document.file)
    {above below : List (List Char)} {line otherLine : List Char}
    (lines : document.lines = above ++ line :: below)
    (otherLines : other.lines = above ++ otherLine :: below) {earlier later : List Finding}
    {finding newFinding : Finding} (found : lineFindings line = earlier ++ finding :: later)
    (newFound : lineFindings otherLine = earlier ++ newFinding :: later) {token newToken : Token}
    (read : finding.token? above.length = some token)
    (newRead : newFinding.token? above.length = some newToken) {settings : Settings}
    (kept : settings.keeps token = true) (newKept : settings.keeps newToken = true) :
    (document.report settings).Exchanges (other.report settings) token newToken := by
  have findings : document.findings =
      above.map lineFindings ++ (earlier ++ finding :: later) :: below.map lineFindings := by
    rw [Document.findings, lines, List.map_append, List.map_cons, found]
  have otherFindings : other.findings =
      above.map lineFindings ++ (earlier ++ newFinding :: later) :: below.map lineFindings := by
    rw [Document.findings, otherLines, List.map_append, List.map_cons, newFound]
  rw [← List.length_map lineFindings] at read newRead
  constructor
  · obtain ⟨first, last, around⟩ := exists_around_reading Finding.token? (above.map lineFindings)
      (below.map lineFindings) earlier later
    have lineCount : other.lines.length = document.lines.length := by
      rw [lines, otherLines]
      simp
    refine ⟨first.filter settings.keeps,
      last.filter settings.keeps ++ [Token.endOfSource document.lines.length], ?_, ?_⟩
    · rw [document.tokens_eq, findings, around, read]
      simp [kept]
    · rw [other.tokens_eq, otherFindings, around, newRead, lineCount]
      simp [newKept]
  · obtain ⟨first, last, around⟩ := exists_around_reading (Finding.diagnostic? document.file)
      (above.map lineFindings) (below.map lineFindings) earlier later
    rw [document.diagnostics_eq, other.diagnostics_eq, sameFile, findings, otherFindings, around,
      around, Finding.diagnostic?_eq_none read, Finding.diagnostic?_eq_none newRead]

def Document.withText (document : Document) (text : List Char) : Document :=
  { document with source := String.ofList text }

theorem Document.exists_exchange {document : Document} {index : Nat}
    {front taken rest : List Char}
    (numbered : document.lines[index]? = some (front ++ taken ++ rest)) (nonempty : taken ≠ []) :
    ∃ before after, Text.placeAfter before = (index, front.length) ∧
      document.source.toList = before ++ taken ++ after ∧
      ∀ {other : List Char} {earlier later : List Finding} {finding newFinding : Finding}
        {token newToken : Token} {settings : Settings}, other ≠ [] → Text.Unbroken other →
        lineFindings (front ++ taken ++ rest) = earlier ++ finding :: later →
        Finds 0 (front ++ other ++ rest) (earlier ++ newFinding :: later) →
        finding.token? index = some token → newFinding.token? index = some newToken →
        settings.keeps token = true → settings.keeps newToken = true →
        (document.report settings).Exchanges
          ((document.withText (before ++ other ++ after)).report settings) token newToken := by
  have oneLine := Document.oneLine_of_numbered numbered
  obtain ⟨above, below, before, after, rfl, place, source, exchanged⟩ :=
    Text.exists_around_line numbered (by simp [nonempty])
  have lines : document.lines = above ++ (front ++ taken ++ rest) :: below := by
    rw [Document.lines, source]
    exact exchanged _ (by simp [nonempty]) oneLine id
  simp only [List.mem_append, not_or] at oneLine
  obtain ⟨⟨frontOneLine, -⟩, restOneLine⟩ := oneLine
  refine ⟨before ++ front, rest ++ after, ?_, ?_, ?_⟩
  · rw [Text.placeAfter_append frontOneLine, place, Nat.zero_add]
  · rw [source]
    simp only [List.append_assoc]
  · intro other earlier later finding newFinding token newToken settings someOther unbroken found
      finds read newRead kept newKept
    have otherOneLine : '\n' ∉ front ++ other ++ rest := by
      simp [frontOneLine, restOneLine, unbroken.1]
    -- A carriage return at the end of the line is not in the part that is exchanged.
    have noReturn : (front ++ other ++ rest).getLast? = some '\r' →
        (front ++ taken ++ rest).getLast? = some '\r' := by
      intro last
      rw [List.getLast?_append] at last ⊢
      rcases Option.or_eq_some_iff.mp last with inRest | ⟨-, inOther⟩
      · rw [inRest, Option.some_or]
      · rw [List.getLast?_append] at inOther
        rcases Option.or_eq_some_iff.mp inOther with isReturn | ⟨nothing, -⟩
        · exact absurd isReturn unbroken.2
        · exact absurd (List.getLast?_eq_none_iff.mp nothing) someOther
    have sameFile : document.file =
        (document.withText (before ++ front ++ other ++ (rest ++ after))).file := rfl
    have otherLines : (document.withText (before ++ front ++ other ++ (rest ++ after))).lines =
        above ++ (front ++ other ++ rest) :: below := by
      rw [Document.lines, Document.withText, String.toList_ofList,
        ← exchanged _ (by simp [someOther]) otherOneLine noReturn]
      simp only [List.append_assoc]
    exact Document.exchanges sameFile.symm lines otherLines found (finds.findingsFrom_eq otherOneLine)
      read newRead kept newKept

/-- What the contents of a string or a comment have an influence on. -/
structure Document.ContentsInert (document : Document) (settings : Settings) (token : Token) :
    Prop where
  string : token.kind = .string →
    ∃ before body furtherQuotes after,
      '"' ∉ body ∧ token.lexeme.toList = stringOf body furtherQuotes ∧
      document.source.toList = before ++ stringOf body furtherQuotes ++ after ∧
      Text.placeAfter before = token.place ∧
      ∀ other : List Char, other.length = body.length → '"' ∉ other → '\n' ∉ other →
        (document.report settings).Exchanges
          ((document.withText (before ++ stringOf other furtherQuotes ++ after)).report settings)
          token
          { token with
            lexeme := String.ofList (stringOf other furtherQuotes)
            literal := Literal.verbatim (other ++ List.replicate furtherQuotes '"') }
  comment : token.kind = .comment →
    (∀ diagnostic ∈ (document.report settings).diagnostics,
      diagnostic.position.line = token.line → ∀ text, diagnostic.fault ≠ .unterminated text) →
    ∃ before front text after,
      token.lexeme.toList = '/' :: '/' :: text ∧
      document.lines[token.line]? = some (front ++ '/' :: '/' :: text) ∧
      document.source.toList = before ++ '/' :: '/' :: text ++ after ∧
      Text.placeAfter before = token.place ∧
      ∀ other : List Char, '\n' ∉ other → '\r' ∉ other →
        (document.report settings).Exchanges
          ((document.withText (before ++ '/' :: '/' :: other ++ after)).report settings)
          token
          { token with
            lexeme := String.ofList ('/' :: '/' :: other)
            literal := Literal.verbatim ('/' :: '/' :: other) }

theorem contents_inert {document : Document} {settings : Settings} {token : Token}
    (member : token ∈ (document.report settings).tokens) :
    document.ContentsInert settings token where
  string := by
    intro isString
    obtain ⟨line, finding, numbered, inLine, read, kept⟩ :=
      Document.exists_finding member (by simp [isString])
    have columnEq := (Finding.token?_eq_some read).2.1
    have found := Finding.found_token read (by simp [isString])
    rw [isString] at found
    obtain ⟨front, body, furtherQuotes, rest, earlier, later, unquoted, lexemeEq, rfl, place,
      split, exchanged⟩ := (Document.finds_of_numbered numbered).exists_string_exchange inLine found
    obtain ⟨before, after, beforePlace, source, exchange⟩ :=
      Document.exists_exchange numbered (by simp [lexemeEq, stringOf])
    refine ⟨before, body, furtherQuotes, after, unquoted, lexemeEq, ?_, ?_, ?_⟩
    · rw [source, lexemeEq]
    · rw [beforePlace, Token.place, columnEq, place]
    · intro other sameLength noQuote noFeed
      have unbroken : Text.Unbroken (stringOf other furtherQuotes) := by
        refine ⟨by simp [stringOf, noFeed], ?_⟩
        rw [Lexeme.getLast?_stringOf]
        decide
      have newRead : Finding.token? token.line
          { finding with found := .token .string (stringOf other furtherQuotes) } =
            some
              { token with
                lexeme := String.ofList (stringOf other furtherQuotes)
                literal := Literal.verbatim (other ++ List.replicate furtherQuotes '"') } := by
        simp only [Finding.token?, Lexeme.literal_stringOf, Option.getD_some, isString, columnEq]
      exact exchange (by simp [stringOf]) unbroken split (exchanged other sameLength noQuote) read
        newRead kept kept
  comment := by
    intro isComment closed
    obtain ⟨line, finding, numbered, inLine, read, kept⟩ :=
      Document.exists_finding member (by simp [isComment])
    have columnEq := (Finding.token?_eq_some read).2.1
    have finds := Document.finds_of_numbered numbered
    have lineClosed : WithoutOpenString (lineFindings line) := by
      intro other otherInLine text isOpen
      exact closed _ (Document.mem_diagnostics numbered otherInLine isOpen settings) rfl text rfl
    obtain ⟨front, text, earlier, lexemeEq, rfl, place, split, exchanged⟩ :=
      finds.exists_comment_exchange inLine (finds.found_comment inLine read isComment) lineClosed
    rw [← List.append_nil (front ++ token.lexeme.toList)] at numbered split
    obtain ⟨before, after, beforePlace, source, exchange⟩ :=
      Document.exists_exchange numbered (by simp [lexemeEq])
    refine ⟨before, front, text, after, lexemeEq, ?_, ?_, ?_, ?_⟩
    · rw [numbered, lexemeEq, List.append_nil]
    · rw [source, lexemeEq]
    · rw [beforePlace, Token.place, columnEq, place]
    · intro other noFeed noReturn
      have unbroken : Text.Unbroken ('/' :: '/' :: other) := by
        apply Text.Unbroken.of_forall
        simp only [List.forall_mem_cons]
        refine ⟨by decide, by decide, ?_⟩
        intro c inOther
        exact ⟨fun feed => noFeed (feed ▸ inOther), fun isReturn => noReturn (isReturn ▸ inOther)⟩
      have newFinds := exchanged other
      rw [← List.append_nil (front ++ '/' :: '/' :: other)] at newFinds
      have newRead :
          Finding.token? token.line { finding with found := .comment ('/' :: '/' :: other) } =
            some
              { token with
                lexeme := String.ofList ('/' :: '/' :: other)
                literal := Literal.verbatim ('/' :: '/' :: other) } := by
        simp only [Finding.token?, isComment, columnEq]
      exact exchange (List.cons_ne_nil _ _) unbroken split newFinds read newRead kept kept

def contentsSample : Document :=
  { source := "a \"//\" // \"\nb", file := "shell" }

theorem contents_inert_contentsSample :
    let string : Token :=
      { kind := .string, lexeme := "\"//\"", literal := .text "//", line := 0, column := 2 }
    let comment : Token :=
      { kind := .comment, lexeme := "// \"", literal := .text "// \"", line := 0, column := 7 }
    (string ∈ (contentsSample.report {}).tokens ∧ contentsSample.ContentsInert {} string) ∧
      (comment ∈ (contentsSample.report {}).tokens ∧ contentsSample.ContentsInert {} comment) ∧
      (contentsSample.report {}).diagnostics = [] := by
  intro string comment
  have stringMember : string ∈ (contentsSample.report {}).tokens :=
    List.mem_of_getElem? (show (contentsSample.report {}).tokens[1]? = some string from rfl)
  have commentMember : comment ∈ (contentsSample.report {}).tokens :=
    List.mem_of_getElem? (show (contentsSample.report {}).tokens[2]? = some comment from rfl)
  exact ⟨⟨stringMember, contents_inert stringMember⟩,
    ⟨commentMember, contents_inert commentMember⟩, by decide⟩

example :
    let diagnostics := fun source => (Document.report { source, file := "shell" } {}).diagnostics
    diagnostics "\" // a" ≠ diagnostics "\" // b" := by
  decide

end LoxLexer
