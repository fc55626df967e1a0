/- Tokens and diagnostics as readings of the findings of all lines. -/
import LoxLexer.Document
import LoxLexer.Proofs.Finding.Coverage
import LoxLexer.Proofs.Text.Lines

namespace LoxLexer

/-- What the findings of all lines are read as, each with the index of its line. -/
def readings {α : Type} (read : Nat → Finding → Option α) (findings : List (List Finding)) :
    List α :=
  findings.zipIdx.flatMap fun (line, index) => line.filterMap (read index)

theorem filterMap_cons_eq_append {α β : Type} (f : α → Option β) (head : α) (later : List α) :
    (head :: later).filterMap f = (f head).toList ++ later.filterMap f := by
  rw [List.filterMap_cons]
  cases f head <;> rfl

theorem tokensOf_eq (settings : Settings) (findings : List (List Finding)) :
    tokensOf settings findings =
      (readings Finding.token? findings).filter settings.keeps ++
        [Token.endOfSource findings.length] := by
  rfl

theorem mem_readings {α : Type} {read : Nat → Finding → Option α}
    {findings : List (List Finding)} {entry : α} :
    entry ∈ readings read findings ↔
      ∃ index line finding, findings[index]? = some line ∧ finding ∈ line ∧
        read index finding = some entry := by
  simp only [readings, List.mem_flatMap, List.mem_filterMap]
  constructor
  · rintro ⟨⟨line, index⟩, numbered, finding, member, entryRead⟩
    exact ⟨index, line, finding, List.mk_mem_zipIdx_iff_getElem?.mp numbered, member, entryRead⟩
  · rintro ⟨index, line, finding, numbered, member, entryRead⟩
    exact ⟨(line, index), List.mk_mem_zipIdx_iff_getElem?.mpr numbered, finding, member,
      entryRead⟩

/-! ### Order -/

def Precedes (first second : Nat × Nat) : Prop :=
  first.1 < second.1 ∨ first.1 = second.1 ∧ first.2 < second.2

theorem zipIdx_indices_increase {α : Type} (entries : List α) (start : Nat) :
    (entries.zipIdx start).Pairwise fun first second => first.2 < second.2 := by
  induction entries generalizing start with
  | nil => exact .nil
  | cons entry later ih =>
      rw [List.zipIdx_cons]
      exact List.pairwise_cons.mpr ⟨fun pair member => List.le_snd_of_mem_zipIdx member, ih _⟩

theorem readings_ordered {α : Type} {read : Nat → Finding → Option α} {place : α → Nat × Nat}
    (placed : ∀ index finding entry, read index finding = some entry →
      place entry = (index, finding.column))
    {findings : List (List Finding)}
    (ordered : ∀ line ∈ findings, line.Pairwise fun first second => first.column < second.column) :
    (readings read findings).Pairwise fun first second =>
      Precedes (place first) (place second) := by
  refine List.pairwise_flatMap.mpr ⟨?_, ?_⟩
  · rintro ⟨line, index⟩ numbered
    have lineOrdered := ordered line (List.fst_mem_of_mem_zipIdx numbered)
    refine List.Pairwise.filterMap (read index) ?_ lineOrdered
    intro first second before firstEntry firstRead secondEntry secondRead
    rw [placed index first firstEntry firstRead, placed index second secondEntry secondRead]
    exact .inr ⟨rfl, before⟩
  · apply (zipIdx_indices_increase findings 0).imp
    intro first second before firstEntry firstMember secondEntry secondMember
    obtain ⟨firstFinding, -, firstRead⟩ := List.mem_filterMap.mp firstMember
    obtain ⟨secondFinding, -, secondRead⟩ := List.mem_filterMap.mp secondMember
    rw [placed _ firstFinding firstEntry firstRead, placed _ secondFinding secondEntry secondRead]
    exact .inl before

/-! ### Entries of a document -/

theorem Finding.token?_eq_some {index : Nat} {finding : Finding} {token : Token}
    (read : finding.token? index = some token) :
    token.line = index ∧ token.column = finding.column ∧
      finding.found.lexeme? = some token.lexeme.toList := by
  obtain ⟨column, found⟩ := finding
  cases found with
  | token kind lexeme =>
      cases read
      exact ⟨rfl, rfl, by simp [Found.lexeme?]⟩
  | comment text =>
      cases read
      exact ⟨rfl, rfl, by simp [Found.lexeme?]⟩
  | fault fault => cases read

theorem Finding.diagnostic?_eq_some {file : String} {index : Nat} {finding : Finding}
    {diagnostic : Diagnostic} (read : finding.diagnostic? file index = some diagnostic) :
    diagnostic.position = { line := index, column := finding.column, file } ∧
      finding.found = .fault diagnostic.fault := by
  obtain ⟨column, found⟩ := finding
  cases found with
  | token kind lexeme => cases read
  | comment text => cases read
  | fault fault =>
      cases read
      exact ⟨rfl, rfl⟩

theorem Finding.found_of_token? {index : Nat} {finding : Finding} {token : Token}
    (read : finding.token? index = some token) :
    finding.found = .token token.kind token.lexeme.toList ∨
      finding.found = .comment token.lexeme.toList ∧ token.kind = .comment := by
  obtain ⟨column, found⟩ := finding
  cases found with
  | token kind lexeme =>
      cases read
      exact .inl (by simp)
  | comment text =>
      cases read
      exact .inr (by simp)
  | fault fault => cases read

theorem Finding.found_token {index : Nat} {finding : Finding} {token : Token}
    (read : finding.token? index = some token) (notComment : token.kind ≠ .comment) :
    finding.found = .token token.kind token.lexeme.toList := by
  rcases Finding.found_of_token? read with found | ⟨-, isComment⟩
  · exact found
  · exact absurd isComment notComment

theorem Document.findings_length (document : Document) :
    document.findings.length = document.lines.length :=
  List.length_map _

theorem Document.tokens_eq (document : Document) (settings : Settings) :
    (document.report settings).tokens =
      (readings Finding.token? document.findings).filter settings.keeps ++
        [Token.endOfSource document.lines.length] := by
  rw [← document.findings_length]
  exact tokensOf_eq settings document.findings

theorem Document.diagnostics_eq (document : Document) (settings : Settings) :
    (document.report settings).diagnostics =
      readings (Finding.diagnostic? document.file) document.findings := by
  rfl

theorem Document.findings_getElem? (document : Document) (index : Nat) :
    document.findings[index]? = (document.lines[index]?).map lineFindings :=
  List.getElem?_map

theorem Document.mem_readings {α : Type} {read : Nat → Finding → Option α} {document : Document}
    {entry : α} :
    entry ∈ readings read document.findings ↔
      ∃ index line finding, document.lines[index]? = some line ∧ finding ∈ lineFindings line ∧
        read index finding = some entry := by
  rw [LoxLexer.mem_readings]
  constructor
  · rintro ⟨index, findings, finding, numbered, member, entryRead⟩
    rw [Document.findings_getElem?, Option.map_eq_some_iff] at numbered
    obtain ⟨line, lineNumbered, rfl⟩ := numbered
    exact ⟨index, line, finding, lineNumbered, member, entryRead⟩
  · rintro ⟨index, line, finding, numbered, member, entryRead⟩
    refine ⟨index, lineFindings line, finding, ?_, member, entryRead⟩
    rw [Document.findings_getElem?, numbered]
    rfl

section

variable {document : Document} {index : Nat} {line : List Char}

theorem Document.oneLine_of_numbered (numbered : document.lines[index]? = some line) :
    '\n' ∉ line :=
  Text.lineFeed_not_mem_line (List.mem_of_getElem? numbered)

theorem Document.finds_of_numbered (numbered : document.lines[index]? = some line) :
    Finds 0 line (lineFindings line) :=
  finds_findingsFrom (Document.oneLine_of_numbered numbered) 0

theorem Document.tiles_of_findings (numbered : document.lines[index]? = some line) :
    Tiles 0 line (lineFindings line) :=
  (Document.finds_of_numbered numbered).tiles

end

theorem Document.exists_foundAt {document : Document} {settings : Settings}
    {diagnostic : Diagnostic} (member : diagnostic ∈ (document.report settings).diagnostics) :
    ∃ before rest, document.lines[diagnostic.position.line]? = some (before ++ rest) ∧
      diagnostic.position.column = before.length ∧ diagnostic.position.file = document.file ∧
      FoundAt (.fault diagnostic.fault) rest := by
  obtain ⟨index, line, finding, numbered, inLine, read⟩ := Document.mem_readings.mp member
  obtain ⟨position, found⟩ := Finding.diagnostic?_eq_some read
  obtain ⟨before, rest, rfl, place, foundAt⟩ :=
    (Document.finds_of_numbered numbered).stands finding inLine
  rw [found] at foundAt
  rw [position]
  exact ⟨before, rest, numbered, by rw [place, Nat.zero_add], rfl, foundAt⟩

/-- A token other than the end is read off a finding of its line, and settings keep it. -/
theorem Document.exists_finding {document : Document} {settings : Settings} {token : Token}
    (member : token ∈ (document.report settings).tokens) (notEnd : token.kind ≠ .endOfSource) :
    ∃ line finding, document.lines[token.line]? = some line ∧ finding ∈ lineFindings line ∧
      finding.token? token.line = some token ∧ settings.keeps token = true := by
  rw [document.tokens_eq, List.mem_append, List.mem_singleton] at member
  rcases member with inner | rfl
  · obtain ⟨read, kept⟩ := List.mem_filter.mp inner
    obtain ⟨index, line, finding, numbered, inLine, tokenRead⟩ := Document.mem_readings.mp read
    obtain rfl := (Finding.token?_eq_some tokenRead).1
    exact ⟨line, finding, numbered, inLine, tokenRead, kept⟩
  · exact absurd rfl notEnd

theorem Document.mem_tokens {document : Document} {settings : Settings} {token : Token}
    {index : Nat} {line : List Char} {finding : Finding}
    (numbered : document.lines[index]? = some line) (inLine : finding ∈ lineFindings line)
    (read : finding.token? index = some token) (kept : settings.keeps token = true) :
    token ∈ (document.report settings).tokens := by
  rw [document.tokens_eq]
  have among := Document.mem_readings.mpr ⟨index, line, finding, numbered, inLine, read⟩
  exact List.mem_append_left _ (List.mem_filter.mpr ⟨among, kept⟩)

theorem Document.mem_diagnostics {document : Document} {index : Nat} {line : List Char}
    {finding : Finding} {fault : Fault} (numbered : document.lines[index]? = some line)
    (inLine : finding ∈ lineFindings line) (found : finding.found = .fault fault)
    (settings : Settings) :
    { fault, position := { line := index, column := finding.column, file := document.file } } ∈
      (document.report settings).diagnostics := by
  apply Document.mem_readings.mpr
  refine ⟨index, line, finding, numbered, inLine, ?_⟩
  simp only [Finding.diagnostic?, found]

/-- A token stands where its line and its column say, before a rest of the line that does
not prolong it. -/
theorem Document.exists_complete {document : Document} {settings : Settings} {token : Token}
    (member : token ∈ (document.report settings).tokens) (notEnd : token.kind ≠ .endOfSource)
    (notComment : token.kind ≠ .comment) :
    ∃ before rest, document.lines[token.line]? = some (before ++ token.lexeme.toList ++ rest) ∧
      token.column = before.length ∧
      Lexeme.Complete token.kind token.lexeme.toList rest := by
  obtain ⟨line, finding, numbered, inLine, read, -⟩ := Document.exists_finding member notEnd
  have found := Finding.found_token read notComment
  obtain ⟨before, rest, rfl, place, complete⟩ :=
    (Document.finds_of_numbered numbered).complete finding inLine _ _ found
  refine ⟨before, rest, numbered, ?_, complete⟩
  rw [(Finding.token?_eq_some read).2.1, place, Nat.zero_add]

theorem Document.findings_ordered (document : Document) :
    ∀ line ∈ document.findings, line.Pairwise fun first second => first.column < second.column := by
  intro findings member
  obtain ⟨line, lineMember, rfl⟩ := List.mem_map.mp member
  have tiles := (finds_findingsFrom (Text.lineFeed_not_mem_line lineMember) 0).tiles
  apply tiles.ordered.imp_of_mem
  intro first second firstMember _ apart
  have inside := tiles.bounds first firstMember
  omega

end LoxLexer
