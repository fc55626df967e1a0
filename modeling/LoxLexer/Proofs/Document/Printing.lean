/- Scanning undoes printing.  Items are written in rows, with white space between neighbours, and
the scan finds each of them where it was written. -/
import LoxLexer.Proofs.Document.Partition
import LoxLexer.Proofs.Grammar.Acceptance
import LoxLexer.Proofs.Lexeme.Spaced

namespace LoxLexer.Printing

open Lexeme (Complete)

/-! ### Rows of items -/

def staysOnLine (c : Char) : Bool :=
  c ≠ '\n' && c ≠ '\r'

structure Gap where
  text : List Char
  blank : text.all Text.isBlank = true
  plain : text.all staysOnLine = true

/-- The kinds and lexemes that may be written: every text with a class of its own,
and every string that is closed by its first quotes and stays on its line. -/
inductive Printable : Kind → List Char → Prop
  | classified {kind : Kind} {lexeme : List Char} :
      Lexeme.classOf lexeme = .token kind → kind ≠ .string → Printable kind lexeme
  | string {body : List Char} (furtherQuotes : Nat) :
      (∀ c ∈ body, c ≠ '"' ∧ c ≠ '\n') →
      Printable .string ('"' :: body ++ '"' :: List.replicate furtherQuotes '"')

structure Item where
  kind : Kind
  lexeme : List Char
  printable : Printable kind lexeme

structure Remark where
  text : List Char
  plain : text.all staysOnLine = true

def Remark.comment (remark : Remark) : List Char :=
  '/' :: '/' :: remark.text

/-- Only at the end of a line may an item stand without white space after it. -/
def Separated (followed : Bool) (items : List (Item × Gap)) : Prop :=
  ∀ entry ∈ if followed then items else items.dropLast, entry.2.text ≠ []

/-- One line to be printed.  Each item stands with the gap after it. -/
structure Row where
  indent : Gap
  items : List (Item × Gap)
  remark : Option Remark
  separated : Separated remark.isSome items

def itemsText (items : List (Item × Gap)) : List Char :=
  items.flatMap fun (item, gap) => item.lexeme ++ gap.text

def Row.remarkText (row : Row) : List Char :=
  match row.remark with
  | none => []
  | some remark => remark.comment

def Row.text (row : Row) : List Char :=
  row.indent.text ++ (itemsText row.items ++ row.remarkText)

def printed (rows : List Row) : String :=
  String.ofList (['\n'].intercalate (rows.map Row.text))

/-! ### Entries -/

structure Entry where
  kind : Kind
  lexeme : String
  line : Nat
  column : Nat
  deriving DecidableEq

def entryOf (token : Token) : Entry :=
  { kind := token.kind, lexeme := token.lexeme, line := token.line, column := token.column }

def itemEntries (line column : Nat) : List (Item × Gap) → List Entry
  | [] => []
  | (item, gap) :: later =>
      { kind := item.kind, lexeme := String.ofList item.lexeme, line, column } ::
        itemEntries line (column + item.lexeme.length + gap.text.length) later

def Row.remarkEntries (row : Row) (line column : Nat) : List Entry :=
  match row.remark with
  | none => []
  | some remark =>
      [{ kind := .comment, lexeme := String.ofList remark.comment, line, column }]

def Row.entries (row : Row) (line : Nat) : List Entry :=
  let start := row.indent.text.length
  itemEntries line start row.items ++
    row.remarkEntries line (start + (itemsText row.items).length)

def entries (rows : List Row) : List Entry :=
  (rows.zipIdx.flatMap fun numbered => numbered.1.entries numbered.2) ++
    [{ kind := .endOfSource, lexeme := "", line := rows.length, column := 0 }]

/-! ### Characters of a row -/

theorem Printable.complete {kind : Kind} {lexeme rest : List Char}
    (printable : Printable kind lexeme)
    (spaced : ∀ next after, rest = next :: after → Text.isBlank next = true) :
    Complete kind lexeme rest := by
  cases printable with
  | classified classified notString => exact .of_classOf classified notString spaced
  | string furtherQuotes plain =>
      refine .string furtherQuotes (fun c member => (plain c member).1) ?_
      intro quote
      obtain ⟨after, split⟩ := List.head?_eq_some_iff.mp quote
      exact absurd (spaced '"' after split) (by decide)

theorem Printable.unbroken {kind : Kind} {lexeme : List Char}
    (printable : Printable kind lexeme) : Text.Unbroken lexeme := by
  cases printable with
  | classified classified notString =>
      have complete : Complete kind lexeme [] :=
        .of_classOf classified notString fun _ _ impossible => by cases impossible
      apply Text.Unbroken.of_forall
      intro c member
      have notBlank := complete.not_blank notString c member
      have notFeed : '\n' ≠ c := Text.ne_of_class (rfl : Text.isBlank '\n' = true) notBlank
      have notReturn : '\r' ≠ c := Text.ne_of_class (rfl : Text.isBlank '\r' = true) notBlank
      exact ⟨notFeed.symm, notReturn.symm⟩
  | @string body furtherQuotes plain =>
      constructor
      · intro feed
        simp only [List.mem_append, List.mem_cons, List.mem_replicate] at feed
        rcases feed with (quote | inBody) | quote | ⟨-, quote⟩
        · cases quote
        · exact (plain '\n' inBody).2 rfl
        · cases quote
        · cases quote
      · rw [← List.replicate_succ, List.getLast?_append, List.getLast?_replicate]
        simp

theorem unbroken_of_all {text : List Char} (plain : text.all staysOnLine = true) :
    Text.Unbroken text := by
  apply Text.Unbroken.of_forall
  intro c member
  simpa [staysOnLine] using List.all_eq_true.mp plain c member

theorem itemsText_cons (item : Item) (gap : Gap) (later : List (Item × Gap)) :
    itemsText ((item, gap) :: later) = item.lexeme ++ (gap.text ++ itemsText later) := by
  simp [itemsText]

theorem itemsText_unbroken (items : List (Item × Gap)) : Text.Unbroken (itemsText items) := by
  induction items with
  | nil => exact .of_forall (by simp [itemsText])
  | cons entry later ih =>
      obtain ⟨item, gap⟩ := entry
      rw [itemsText_cons]
      exact item.printable.unbroken.append ((unbroken_of_all gap.plain).append ih)

theorem Remark.comment_plain (remark : Remark) : remark.comment.all staysOnLine = true := by
  rw [Remark.comment, List.all_cons, List.all_cons, remark.plain]
  decide

theorem Row.remarkText_unbroken (row : Row) : Text.Unbroken row.remarkText := by
  unfold Row.remarkText
  cases row.remark with
  | none => exact unbroken_of_all rfl
  | some remark => exact unbroken_of_all remark.comment_plain

theorem Row.unbroken (row : Row) : Text.Unbroken row.text :=
  (unbroken_of_all row.indent.plain).append
    ((itemsText_unbroken row.items).append row.remarkText_unbroken)

/-! ### Separated items -/

section

variable {followed : Bool} {items : List (Item × Gap)}

theorem Separated.tail {entry : Item × Gap} (separated : Separated followed (entry :: items)) :
    Separated followed items := by
  intro later member
  apply separated later
  cases followed with
  | true => exact List.mem_cons_of_mem entry member
  | false =>
      have someLater : items ≠ [] := by
        intro none
        rw [none] at member
        cases member
      simp only [Bool.false_eq_true, if_false] at member ⊢
      rw [List.dropLast_cons_of_ne_nil someLater]
      exact List.mem_cons_of_mem entry member

theorem Separated.last {item : Item} {gap : Gap}
    (separated : Separated followed ((item, gap) :: items)) (empty : gap.text = []) :
    followed = false ∧ items = [] := by
  cases followed with
  | true => exact absurd empty (separated (item, gap) List.mem_cons_self)
  | false =>
      cases items with
      | nil => exact ⟨rfl, rfl⟩
      | cons next items => exact absurd empty (separated (item, gap) List.mem_cons_self)

theorem Separated.spaced {item : Item} {gap : Gap} {rest : List Char}
    (separated : Separated followed ((item, gap) :: items))
    (ends : followed = false → rest = []) :
    ∀ next after, gap.text ++ (itemsText items ++ rest) = next :: after →
      Text.isBlank next = true := by
  intro next after split
  cases blanks : gap.text with
  | nil =>
      obtain ⟨unfollowed, none⟩ := separated.last blanks
      rw [blanks, none, ends unfollowed] at split
      cases split
  | cons blank more =>
      have allBlank := gap.blank
      rw [blanks] at split allBlank
      rw [← (List.cons.inj split).1]
      exact List.all_eq_true.mp allBlank blank List.mem_cons_self

end

/-! ### Steps along a row -/

/-- The rest of a line has no fault, and what is found in it are the entries. -/
def Yields (line column : Nat) (text : List Char) (entries : List Entry) : Prop :=
  ∃ findings, Finds column text findings ∧ Faultless findings ∧
    (findings.filterMap (Finding.token? line)).map entryOf = entries

section

variable {line column : Nat} {rest : List Char} {later : List Entry}

theorem Yields.done (line column : Nat) : Yields line column [] [] :=
  ⟨[], .done column, .nil, rfl⟩

theorem Yields.blanks {blanks : List Char} (blank : blanks.all Text.isBlank = true)
    (yields : Yields line (column + blanks.length) rest later) :
    Yields line column (blanks ++ rest) later := by
  induction blanks generalizing column with
  | nil => exact yields
  | cons c blanks ih =>
      rw [List.length_cons, Nat.add_comm blanks.length, ← Nat.add_assoc] at yields
      rw [List.all_cons, Bool.and_eq_true] at blank
      obtain ⟨findings, finds, faultless, read⟩ := ih blank.2 yields
      exact ⟨findings, .blank blank.1 finds, faultless, read⟩

theorem Yields.token {kind : Kind} {lexeme : List Char} (complete : Complete kind lexeme rest)
    (yields : Yields line (column + lexeme.length) rest later) :
    Yields line column (lexeme ++ rest)
      ({ kind, lexeme := String.ofList lexeme, line, column } :: later) := by
  obtain ⟨findings, finds, faultless, rfl⟩ := yields
  exact ⟨_, .token complete finds, .cons (by simp) faultless, rfl⟩

theorem Yields.comment (remark : Remark) :
    Yields line column remark.comment
      [{ kind := .comment, lexeme := String.ofList remark.comment, line, column }] :=
  ⟨_, .comment column remark.text, .cons (by simp) .nil, rfl⟩

/-- Items that are followed by white space, the last one perhaps by the end of the
line, are found where they are written. -/
theorem Yields.items {items : List (Item × Gap)} {followed : Bool}
    (separated : Separated followed items)
    (ends : followed = false → rest = [])
    (yields : Yields line (column + (itemsText items).length) rest later) :
    Yields line column (itemsText items ++ rest) (itemEntries line column items ++ later) := by
  induction items generalizing column with
  | nil => exact yields
  | cons entry items ih =>
      obtain ⟨item, gap⟩ := entry
      rw [itemsText_cons, List.length_append, List.length_append, ← Nat.add_assoc,
        ← Nat.add_assoc] at yields
      rw [itemsText_cons, List.append_assoc, List.append_assoc, itemEntries, List.cons_append]
      exact .token (item.printable.complete (separated.spaced ends))
        (.blanks gap.blank (ih separated.tail yields))

end

theorem Row.yields (row : Row) (line : Nat) : Yields line 0 row.text (row.entries line) := by
  refine .blanks row.indent.blank ?_
  rw [Nat.zero_add]
  refine .items row.separated ?_ ?_
  · intro unfollowed
    unfold Row.remarkText
    cases remark : row.remark with
    | none => rfl
    | some _ => simp [remark] at unfollowed
  · unfold Row.remarkText Row.remarkEntries
    cases row.remark with
    | none => exact .done line _
    | some remark => exact .comment remark

theorem Row.faultless (row : Row) : Faultless (lineFindings row.text) := by
  obtain ⟨findings, finds, faultless, -⟩ := row.yields 0
  rw [lineFindings, finds.findingsFrom_eq row.unbroken.1]
  exact faultless

theorem Row.tokens (row : Row) (line : Nat) :
    ((lineFindings row.text).filterMap (Finding.token? line)).map entryOf = row.entries line := by
  obtain ⟨findings, finds, -, read⟩ := row.yields line
  rw [lineFindings, finds.findingsFrom_eq row.unbroken.1]
  exact read

/-! ### Printed documents -/

theorem lines_printed {rows : List Row} {last : Row} (final : rows.getLast? = some last)
    (nonempty : last.text ≠ []) : Text.lines (printed rows).toList = rows.map Row.text := by
  have unbroken : ∀ text ∈ rows.map Row.text, Text.Unbroken text := by
    intro text member
    obtain ⟨row, -, rfl⟩ := List.mem_map.mp member
    exact row.unbroken
  have lastText : (rows.map Row.text).getLast? = some last.text := by
    rw [List.getLast?_map, final]
    rfl
  rw [printed, String.toList_ofList]
  exact Text.lines_joined unbroken lastText nonempty

theorem tokens_of_rows (rows : List Row) :
    (readings Finding.token? ((rows.map Row.text).map lineFindings)).map entryOf =
      rows.zipIdx.flatMap fun numbered => numbered.1.entries numbered.2 := by
  rw [List.map_map, readings, List.zipIdx_map, List.flatMap_map, List.map_flatMap]
  congr 1
  funext numbered
  exact numbered.1.tokens numbered.2

/-- The items of the rows are the tokens of the printed text, with the comments at
the ends of the rows, each at the line and the column where it is written. -/
theorem report_of_printed {rows : List Row} {last : Row} (final : rows.getLast? = some last)
    (nonempty : last.text ≠ []) (file : String) (mode : Mode) :
    let report := Document.report { source := printed rows, file } { mode, withComments := true }
    report.diagnostics = [] ∧ report.tokens.map entryOf = entries rows := by
  have lines : Document.lines { source := printed rows, file } = rows.map Row.text :=
    lines_printed final nonempty
  constructor
  · rw [Document.diagnostics_eq_nil_iff, lines]
    intro text member
    obtain ⟨row, -, rfl⟩ := List.mem_map.mp member
    exact row.faultless
  · rw [Document.tokens_withComments, Document.findings, lines, List.map_append, tokens_of_rows,
      List.length_map]
    rfl

def sampleRows : List Row :=
  [{ indent := { text := ['\t'], blank := rfl, plain := rfl }
     items :=
       [({ kind := .keyword .var, lexeme := "var".toList,
           printable := .classified (by decide) (by decide) },
         { text := [' '], blank := rfl, plain := rfl }),
        ({ kind := .string, lexeme := "\"é\"\"".toList,
           printable := @Printable.string ['é'] 1 (by simp) },
         { text := ['\u2003', ' '], blank := rfl, plain := rfl })]
     remark := some { text := "1 \"".toList, plain := rfl }
     separated := by simp [Separated] },
   { indent := { text := [], blank := rfl, plain := rfl }
     items :=
       [({ kind := .number, lexeme := "1.5".toList,
           printable := .classified (by decide) (by decide) },
         { text := [], blank := rfl, plain := rfl })]
     remark := none
     separated := by simp [Separated] }]

theorem report_of_printed_sample :
    let report := Document.report { source := printed sampleRows, file := "shell" } {}
    report.diagnostics = [] ∧
      report.tokens.map entryOf =
        [{ kind := .keyword .var, lexeme := "var", line := 0, column := 1 },
          { kind := .string, lexeme := "\"é\"\"", line := 0, column := 5 },
          { kind := .comment, lexeme := "//1 \"", line := 0, column := 11 },
          { kind := .number, lexeme := "1.5", line := 1, column := 0 },
          { kind := .endOfSource, lexeme := "", line := 2, column := 0 }] :=
  report_of_printed rfl (by decide) "shell" .lenient

end LoxLexer.Printing
