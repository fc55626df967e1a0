/- Which diagnostics can be shown.  Nothing bounds the distance of a fault from the beginning of
its line, but a caret line has a greatest width. -/
import LoxLexer.Command
import LoxLexer.Proofs.Diagnostic.Caret
import LoxLexer.Proofs.Document.Settings
import LoxLexer.Proofs.Lexeme.Spaced

namespace LoxLexer

open Command (Request fileName?)

/-! ### The width of the caret line -/

theorem Excerpt.exists_text_iff (excerpt : Excerpt) :
    (∃ text, excerpt.toText? = some text) ↔ excerpt.caretWidth ≤ greatestCaretWidth := by
  unfold toText?
  split
  · rename_i narrow
    simpa using narrow
  · rename_i wide
    simpa using wide

theorem Document.indentation_le_column {document : Document} {settings : Settings}
    {diagnostic : Diagnostic} (member : diagnostic ∈ (document.report settings).diagnostics) :
    ∃ line, Text.line? document.source.toList diagnostic.position.line = some line ∧
      Text.indentation line ≤ diagnostic.position.column ∧
      diagnostic.position.column < line.length := by
  obtain ⟨before, rest, numbered, columnEq, -, foundAt⟩ := Document.exists_foundAt member
  have oneLine := Document.oneLine_of_numbered numbered
  obtain ⟨c, restHead, -, notBlank, -⟩ :=
    foundAt.fault_head fun feed => oneLine (List.mem_append_right before feed)
  have here : (before ++ rest)[diagnostic.position.column]? = some c := by
    rw [columnEq, List.getElem?_append_right (Nat.le_refl _), Nat.sub_self,
      ← List.head?_eq_getElem?, restHead]
  obtain ⟨inside, -⟩ := List.getElem?_eq_some_iff.mp here
  exact ⟨before ++ rest, numbered, Text.indentation_le here notBlank, inside⟩

theorem Diagnostic.exists_render_iff {diagnostic : Diagnostic} {source : String}
    {line : List Char} (numbered : Text.line? source.toList diagnostic.position.line = some line) :
    (∃ text, diagnostic.render? source = some text) ↔
      diagnostic.position.column - Text.indentation line < Excerpt.greatestCaretWidth := by
  rw [Diagnostic.render?, Excerpt.exists_text_iff, Diagnostic.excerpt_eq numbered]
  exact Nat.succ_le_iff

/-- Every diagnostic of a source with short lines can be shown. -/
theorem Document.exists_render_of_short_lines {document : Document} {settings : Settings}
    {diagnostic : Diagnostic} (member : diagnostic ∈ (document.report settings).diagnostics)
    (short : ∀ line ∈ document.lines, line.length ≤ Excerpt.greatestCaretWidth) :
    ∃ text, diagnostic.render? document.source = some text := by
  obtain ⟨line, numbered, -, inside⟩ := Document.indentation_le_column member
  have lineShort := short line (List.mem_of_getElem? numbered)
  apply (Diagnostic.exists_render_iff numbered).mpr
  omega

/-! ### Strict scans that fail -/

theorem Document.mem_diagnostics_of_scan {document : Document} {withComments : Bool}
    {diagnostic : Diagnostic}
    (failed : document.scan { mode := .strict, withComments } = .error diagnostic) :
    diagnostic ∈ (document.report { mode := .strict, withComments }).diagnostics :=
  List.mem_of_head? ((document.scan_strict_eq_error_iff withComments diagnostic).mp failed)

theorem Command.Request.outcome?_of_failure {request : Request} {source : String}
    {diagnostic : Diagnostic} (failed : request.scan source = .error diagnostic)
    (elapsed : String) :
    request.outcome? elapsed (.ok source) =
      (diagnostic.render? source).map fun text => { code := 1, stdout := "", stderr := text } := by
  rw [Request.outcome?, failed]
  rfl

/-- A strict scan that fails can show why, and the command exits with code 1, exactly if
the fault is not too far from the first character of its line that is not blank. -/
theorem strict_failure_shown_iff {source : String} {file? : Option String} {withComments : Bool}
    {diagnostic : Diagnostic}
    (failed : (Document.ofSource source file?).scan { mode := .strict, withComments } =
      .error diagnostic) :
    ∃ line, Text.line? source.toList diagnostic.position.line = some line ∧
      Text.indentation line ≤ diagnostic.position.column ∧
      diagnostic.position.column < line.length ∧
      ((∃ text, diagnostic.render? source = some text) ↔
        diagnostic.position.column - Text.indentation line < 65535) ∧
      ∀ path elapsed, fileName? path = file? →
        let request : Request := { file := path, strict := true, noComments := !withComments }
        ((∃ outcome, request.outcome? elapsed (.ok source) = some outcome ∧ outcome.code = 1) ↔
          diagnostic.position.column - Text.indentation line < 65535) := by
  obtain ⟨line, numbered, notBefore, inside⟩ :=
    Document.indentation_le_column (Document.mem_diagnostics_of_scan failed)
  have shown := Diagnostic.exists_render_iff numbered
  refine ⟨line, numbered, notBefore, inside, shown, ?_⟩
  intro path elapsed named request
  -- The request looks at the same document, under the same settings.
  have requestFailed : request.scan source = .error diagnostic := by
    rw [← named, ← Bool.not_not withComments] at failed
    exact failed
  rw [Request.outcome?_of_failure requestFailed]
  refine Iff.trans ?_ shown
  constructor
  · rintro ⟨outcome, written, -⟩
    obtain ⟨text, rendered, -⟩ := Option.map_eq_some_iff.mp written
    exact ⟨text, rendered⟩
  · rintro ⟨text, rendered⟩
    exact ⟨_, Option.map_eq_some_iff.mpr ⟨text, rendered, rfl⟩, rfl⟩

theorem strict_failure_shown_iff_caretSample :
    let diagnostic : Diagnostic :=
      { fault := .unrecognised "@"
        position := { file := "final.lox", line := 1, column := 9 } }
    (Document.ofSource caretSample.source (some "final.lox")).scan
        { mode := .strict, withComments := true } = .error diagnostic ∧
      ∃ line, Text.line? caretSample.source.toList 1 = some line ∧
        Text.indentation line ≤ 9 ∧ 9 < line.length ∧
        ((∃ text, diagnostic.render? caretSample.source = some text) ↔
          9 - Text.indentation line < 65535) ∧
        ∀ path elapsed, fileName? path = some "final.lox" →
          let request : Request := { file := path, strict := true, noComments := !true }
          ((∃ outcome, request.outcome? elapsed (.ok caretSample.source) = some outcome ∧
              outcome.code = 1) ↔
            9 - Text.indentation line < 65535) := by
  intro diagnostic
  have failed : (Document.ofSource caretSample.source (some "final.lox")).scan
      { mode := .strict, withComments := true } = .error diagnostic := by
    rfl
  exact ⟨failed, strict_failure_shown_iff failed⟩

/-! ### A fault far to the right

The scan of the line is derived for every number of blanks, and no long line is ever
computed.
-/

def wideLine (blanks : Nat) : List Char :=
  '(' :: List.replicate (blanks + 1) ' ' ++ ['@']

theorem Finds.blanks {column blanks : Nat} {rest : List Char} {findings : List Finding}
    (finds : Finds (column + blanks) rest findings) :
    Finds column (List.replicate blanks ' ' ++ rest) findings := by
  induction blanks generalizing column with
  | zero => exact finds
  | succ blanks ih =>
      rw [List.replicate_succ, List.cons_append]
      apply Finds.blank (by decide)
      apply ih
      rwa [Nat.add_assoc, Nat.add_comm 1]

theorem finds_wideLine (blanks : Nat) :
    Finds 0 (wideLine blanks)
      [{ column := 0, found := .token (.symbol .leftParen) ['('] },
        { column := blanks + 2, found := .fault (.unrecognised "@") }] := by
  have spaced : ∀ next after, List.replicate (blanks + 1) ' ' ++ ['@'] = next :: after →
      Text.isBlank next = true := by
    intro next after split
    obtain ⟨rfl, -⟩ := List.cons.inj split
    decide
  have parenthesis : Lexeme.Complete (.symbol .leftParen) ['(']
      (List.replicate (blanks + 1) ' ' ++ ['@']) :=
    .symbol .leftParen (Lexeme.endsSymbol_of_spaced spaced)
  have unspelled : ∀ symbol : Symbol, ['@'] ≠ symbol.spelling.toList := by
    intro symbol
    cases symbol <;> decide
  have fault : Finds (1 + (blanks + 1)) ['@']
      [{ column := 1 + (blanks + 1), found := .fault (.unrecognised "@") }] :=
    .nothing (by decide) (by decide) unspelled (.done _)
  rw [show blanks + 2 = 1 + (blanks + 1) by omega]
  exact .token parenthesis fault.blanks

theorem lines_wideLine (blanks : Nat) : Text.lines (wideLine blanks) = [wideLine blanks] := by
  have unbroken : Text.Unbroken (wideLine blanks) := by
    apply Text.Unbroken.of_forall
    intro c member
    simp only [wideLine, List.cons_append, List.mem_cons, List.mem_append, List.mem_replicate,
      List.not_mem_nil, or_false] at member
    rcases member with rfl | ⟨-, rfl⟩ | rfl <;> decide
  have joined := Text.lines_joined (List.forall_mem_singleton.mpr unbroken) rfl
    (List.cons_ne_nil '(' _)
  rwa [List.intercalate_singleton] at joined

def wideSource (blanks : Nat) : String :=
  String.ofList (wideLine blanks)

def wideFault (blanks : Nat) : Diagnostic :=
  { fault := .unrecognised "@"
    position := { line := 0, column := blanks + 2, file := "wide.lox" } }

theorem lines_wideSource (blanks : Nat) :
    Text.lines (wideSource blanks).toList = [wideLine blanks] := by
  rw [wideSource, String.toList_ofList, lines_wideLine]

theorem scan_wideSource (blanks : Nat) (withComments : Bool) :
    (Document.ofSource (wideSource blanks) (some "wide.lox")).scan
      { mode := .strict, withComments } = .error (wideFault blanks) := by
  have lines : (Document.ofSource (wideSource blanks) (some "wide.lox")).lines =
      [wideLine blanks] := lines_wideSource blanks
  have isLine : wideLine blanks ∈ Text.lines (wideLine blanks) := by
    rw [lines_wideLine]
    exact List.mem_singleton_self _
  have findings : (Document.ofSource (wideSource blanks) (some "wide.lox")).findings =
      [[{ column := 0, found := .token (.symbol .leftParen) ['('] },
        { column := blanks + 2, found := .fault (.unrecognised "@") }]] := by
    rw [Document.findings, lines, List.map_singleton, lineFindings,
      (finds_wideLine blanks).findingsFrom_eq (Text.lineFeed_not_mem_line isLine)]
  rw [Document.scan_strict_eq_error_iff, Document.diagnostics_eq, findings]
  rfl

theorem render?_wideFault {blanks : Nat} (wide : 65533 ≤ blanks) :
    (wideFault blanks).render? (wideSource blanks) = none := by
  have numbered : Text.line? (wideSource blanks).toList (wideFault blanks).position.line =
      some (wideLine blanks) := by
    rw [Text.line?, lines_wideSource]
    rfl
  have notIndented : Text.indentation (wideLine blanks) = 0 := by
    rfl
  have notShown := mt (Diagnostic.exists_render_iff numbered).mp
  rw [notIndented, Nat.sub_zero, ← Option.isSome_iff_exists, Option.not_isSome_iff_eq_none]
    at notShown
  apply notShown
  show ¬ blanks + 2 < 65535
  omega

theorem outcome?_wideSource {blanks : Nat} (wide : 65533 ≤ blanks) (elapsed : String) :
    ({ file := "wide.lox", strict := true, noComments := false } : Request).outcome? elapsed
      (.ok (wideSource blanks)) = none := by
  have named : fileName? "wide.lox" = some "wide.lox" := by
    decide
  have failed : ({ file := "wide.lox", strict := true, noComments := false } : Request).scan
      (wideSource blanks) = .error (wideFault blanks) := by
    rw [Request.scan, Command.documentOf, named]
    exact scan_wideSource blanks true
  rw [Request.outcome?_of_failure failed, render?_wideFault wide]
  rfl

/-- With this many blanks the caret line would be one column too wide. -/
theorem wideSource_not_shown :
    (Document.ofSource (wideSource 65533) (some "wide.lox")).scan { mode := .strict } =
        .error (wideFault 65533) ∧
      (wideFault 65533).render? (wideSource 65533) = none ∧
      ({ file := "wide.lox", strict := true, noComments := false } : Request).outcome? ""
        (.ok (wideSource 65533)) = none :=
  ⟨scan_wideSource 65533 true, render?_wideFault (Nat.le_refl 65533),
    outcome?_wideSource (Nat.le_refl 65533) ""⟩

end LoxLexer
