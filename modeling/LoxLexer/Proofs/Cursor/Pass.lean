/- A scan through cursors comes to its end: its turns follow the rules for the findings of the
line. -/
import LoxLexer.Cursor.Pass
import LoxLexer.Proofs.Cursor.Opening
import LoxLexer.Proofs.Document.Literals
import LoxLexer.Proofs.Document.Log

namespace LoxLexer

/-! ### Turns -/

namespace Progress

variable {file : String} {settings : Settings} {index : Nat} {finding : Finding}

theorem meet_of_keeps {token : Token} (undiagnosed : finding.diagnostic? file index = none)
    (read : finding.token? index = some token) (kept : settings.keeps token = true)
    (progress : Progress) :
    progress.meet file settings index finding = progress.keep token := by
  simp only [meet, undiagnosed, read, Option.filter_some, kept, if_true, Option.toList_some, keep]

theorem meet_of_not_keeps {token : Token} (undiagnosed : finding.diagnostic? file index = none)
    (read : finding.token? index = some token) (left : settings.keeps token = false)
    (progress : Progress) : progress.meet file settings index finding = progress := by
  simp only [meet, undiagnosed, read, Option.filter_some, left, Bool.false_eq_true, if_false,
    Option.toList_none, List.append_nil]

theorem meet_of_diagnostic {diagnostic : Diagnostic}
    (read : finding.diagnostic? file index = some diagnostic) (progress : Progress) :
    progress.meet file settings index finding = progress.reject diagnostic := by
  simp only [meet, read, reject]

end Progress

namespace Cursor

section

variable {line rest : List Char} {place : Nat} {first : Char}
  (file : String) (settings : Settings) (index : Nat) (progress : Progress)

theorem turn?_of_blank (here : line.drop place = first :: rest)
    (blank : Text.isBlank first = true) :
    (onLine line place).turn? file settings index progress =
      some { cursor := onLine line (place + 1), progress } := by
  rw [turn?, current?_of_here here, Option.bind_eq_bind, Option.bind_some, if_pos blank]
  rfl

theorem turn?_of_not_blank (here : line.drop place = first :: rest)
    (notBlank : Text.isBlank first = false) :
    (onLine line place).turn? file settings index progress =
      (onLine line place).take? file settings index progress
        (Lexeme.opening (first :: rest)) := by
  rw [turn?, current?_of_here here, Option.bind_eq_bind, Option.bind_some, notBlank,
    opening?_onLine here]
  rfl

/-- A comment is read only if it is kept, and it ends the line either way. -/
theorem take?_comment (here : line.drop place = first :: rest) :
    (onLine line place).take? file settings index progress .comment =
      some
        { cursor := onLine line place
          progress := progress.meet file settings index
            { column := place, found := .comment (first :: rest) }
          inComment := true } := by
  rw [take?]
  by_cases kept : settings.withComments = true
  · rw [if_pos kept, remainder?_of_here here, Progress.meet_of_keeps rfl rfl]
    · rfl
    · rw [Settings.keeps, kept, Bool.true_or]
  · rw [if_neg kept, Progress.meet_of_not_keeps rfl rfl]
    · rfl
    · simpa [Settings.keeps, Token.isComment] using kept

theorem take?_token {kind : Kind} {lexeme : List Char}
    (here : line.drop place = lexeme ++ rest) (complete : Lexeme.Complete kind lexeme rest) :
    (onLine line place).take? file settings index progress (.token kind lexeme.length) =
      some
        { cursor := onLine line (place + lexeme.length)
          progress := progress.meet file settings index
            { column := place, found := .token kind lexeme } } := by
  obtain ⟨next, more, lexemeEq, -⟩ := complete.head_not_blank
  have text : lexeme ++ rest = next :: (more ++ rest) := by
    rw [lexemeEq, List.cons_append]
  have slice := peek?_of_front (here.trans text) text.symm
  have keeps : settings.keeps
      { kind, lexeme := String.ofList lexeme, literal := Literal.ofScanned kind lexeme,
        line := index, column := place } = true := by
    have notComment := complete.kind_ne_comment
    simp [Settings.keeps, Token.isComment, notComment]
  rw [take?, slice, Option.bind_eq_bind, Option.bind_some, complete.exists_literal,
    Option.bind_eq_bind, Option.bind_some, Progress.meet_of_keeps rfl rfl keeps]
  rfl

theorem take?_openString (here : line.drop place = first :: rest) :
    (onLine line place).take? file settings index progress .openString =
      some
        { cursor := onLine line (place + 1)
          progress := progress.meet file settings index
            { column := place
              found := .fault (.unterminated (String.ofList (first :: rest))) } } := by
  rw [take?, remainder?_of_here here, Progress.meet_of_diagnostic rfl]
  rfl

theorem take?_nothing (here : line.drop place = first :: rest) :
    (onLine line place).take? file settings index progress .nothing =
      some
        { cursor := onLine line (place + 1)
          progress := progress.meet file settings index
            { column := place, found := .fault (.unrecognised (String.ofList [first])) } } := by
  rw [take?, current?_of_here here, Progress.meet_of_diagnostic rfl]
  rfl

/-! ### The run of the loop -/

theorem unread_onLine : (onLine line place).unread = line.length - place := by
  simp [unread, onLine, ofLine]

theorem drop_behind (here : line.drop place = first :: rest) : line.drop (place + 1) = rest := by
  rw [← List.drop_drop, here, List.drop_one, List.tail_cons]

theorem scan?_of_end (atEnd : line.drop place = []) :
    (onLine line place).scan? file settings index progress = some (progress, false) := by
  have behind := List.drop_eq_nil_iff.mp atEnd
  rw [scan?, atEnd_onLine, if_pos (decide_eq_true behind)]

theorem scan?_of_turn {next : Nat} {met : Progress} (here : line.drop place = first :: rest)
    (turned : (onLine line place).turn? file settings index progress =
      some { cursor := onLine line next, progress := met })
    (forward : place < next) :
    (onLine line place).scan? file settings index progress =
      (onLine line next).scan? file settings index met := by
  have shorter : (onLine line next).unread < (onLine line place).unread := by
    have size := length_of_here here
    rw [List.length_cons] at size
    rw [unread_onLine, unread_onLine]
    omega
  rw [scan?, atEnd_of_here here, turned]
  simp [shorter]

theorem scan?_of_comment {met : Progress} (here : line.drop place = first :: rest)
    (turned : (onLine line place).turn? file settings index progress =
      some { cursor := onLine line place, progress := met, inComment := true }) :
    (onLine line place).scan? file settings index progress = some (met, true) := by
  rw [scan?, atEnd_of_here here, turned]
  rfl

/-- The loop goes through the findings of the rest of the line, in their order. -/
theorem scan?_of_finds {column : Nat} {text : List Char} {findings : List Finding}
    (finds : Finds column text findings) (oneLine : '\n' ∉ text) (here : line.drop column = text) :
    (onLine line column).scan? file settings index progress =
      some (findings.foldl (Progress.meet file settings index) progress,
        findings.any Finding.isComment) := by
  induction finds generalizing progress with
  | done column => exact scan?_of_end file settings index progress here
  | blank blank _ ih =>
      have turned := turn?_of_blank file settings index progress here blank
      rw [scan?_of_turn file settings index progress here turned (Nat.lt_succ_self _)]
      exact ih _ (fun feed => oneLine (List.mem_cons_of_mem _ feed)) (drop_behind here)
  | comment column text =>
      have turned := turn?_of_not_blank file settings index progress here (by decide)
      rw [Lexeme.opening_comment, take?_comment file settings index progress here] at turned
      exact scan?_of_comment file settings index progress here turned
  | @token column kind lexeme rest findings complete _ ih =>
      have opened := Lexeme.opening_complete (fun feed => oneLine (List.mem_append_left _ feed))
        complete
      have taken := take?_token file settings index progress here complete
      obtain ⟨first, more, lexemeEq, notBlank⟩ := complete.head_not_blank
      have text : lexeme ++ rest = first :: (more ++ rest) := by rw [lexemeEq, List.cons_append]
      have turned := turn?_of_not_blank file settings index progress (here.trans text) notBlank
      rw [← text, opened, taken] at turned
      have forward : column < column + lexeme.length := by
        rw [lexemeEq, List.length_cons]
        omega
      rw [scan?_of_turn file settings index progress (here.trans text) turned forward]
      refine ih _ (fun feed => oneLine (List.mem_append_right _ feed)) ?_
      rw [← List.drop_drop, here, List.drop_left]
  | openString unquoted _ ih =>
      have turned := turn?_of_not_blank file settings index progress here (by decide)
      rw [Lexeme.opening_openString unquoted,
        take?_openString file settings index progress here] at turned
      rw [scan?_of_turn file settings index progress here turned (Nat.lt_succ_self _)]
      exact ih _ (fun feed => oneLine (List.mem_cons_of_mem _ feed)) (drop_behind here)
  | nothing notBlank mark unspelled _ ih =>
      have turned := turn?_of_not_blank file settings index progress here notBlank
      rw [Lexeme.opening_nothing _ mark unspelled,
        take?_nothing file settings index progress here] at turned
      rw [scan?_of_turn file settings index progress here turned (Nat.lt_succ_self _)]
      exact ih _ (fun feed => oneLine (List.mem_cons_of_mem _ feed)) (drop_behind here)

end

end Cursor

/-! ### The pass over a document -/

theorem Progress.scanLine?_eq (file : String) (settings : Settings) (progress : Progress)
    {line : List Char} (oneLine : '\n' ∉ line) (index : Nat) :
    progress.scanLine? file settings (line, index) =
      some (progress.scanLine file settings (lineFindings line, index)) := by
  have finds := finds_findingsFrom oneLine 0
  have scanned := Cursor.scan?_of_finds file settings index progress finds oneLine
    (List.drop_zero : line.drop 0 = line)
  rw [Cursor.onLine_zero] at scanned
  rw [Progress.scanLine?, scanned]
  rfl

theorem Progress.foldlM_scanLine? (file : String) (settings : Settings)
    {lines : List (List Char)} (oneLine : ∀ line ∈ lines, '\n' ∉ line) (start : Nat)
    (progress : Progress) :
    (lines.zipIdx start).foldlM (Progress.scanLine? file settings) progress =
      some (((lines.map lineFindings).zipIdx start).foldl (Progress.scanLine file settings)
        progress) := by
  induction lines generalizing start progress with
  | nil => rfl
  | cons line lines ih =>
      obtain ⟨here, later⟩ := List.forall_mem_cons.mp oneLine
      rw [List.zipIdx_cons, List.foldlM_cons, progress.scanLine?_eq file settings here]
      exact ih later (start + 1) _

theorem Document.cursorPass?_eq (document : Document) (settings : Settings) :
    document.cursorPass? settings = some (document.pass settings) := by
  have oneLine : ∀ line ∈ document.lines, '\n' ∉ line :=
    fun line member => Text.lineFeed_not_mem_line member
  rw [Document.cursorPass?, Progress.foldlM_scanLine? _ _ oneLine]
  rfl

/-- What a cursor at a place of a line reads, and when it reads anything. -/
structure Cursor.ReadsExactly (line : List Char) (place : Nat) : Prop where
  current : ∀ c, (onLine line place).current? = some c ↔ ∃ rest, line.drop place = c :: rest
  remaining : ∀ count, (onLine line place).remaining? = some count ↔ place + count = line.length
  offset : ∀ index offset, (onLine line place).offsets[index]? = some offset ↔
    index ≤ line.length ∧ offset = Text.byteSize (line.take index)
  peek : ∀ count slice, (onLine line place).peek? count = some slice ↔
    place + count ≤ line.length ∧ slice = (line.drop place).take count
  remainder : ∀ slice, (onLine line place).remainder? = some slice ↔
    place ≤ line.length ∧ slice = line.drop place

theorem Cursor.readsExactly (line : List Char) (place : Nat) : ReadsExactly line place where
  current := by
    intro c
    rw [current?_onLine, List.head?_eq_some_iff]
  remaining := by
    intro count
    rw [remaining?_onLine, Option.ite_none_right_eq_some, Option.some.injEq, List.length_drop]
    omega
  offset := by
    intro index offset
    rw [offset_onLine, Option.ite_none_right_eq_some, Option.some.injEq, eq_comm]
  peek := by
    intro count slice
    rw [peek?_onLine, Option.ite_none_right_eq_some, Option.some.injEq, eq_comm]
  remainder := by
    intro slice
    rw [remainder?_onLine, Option.ite_none_right_eq_some, Option.some.injEq, eq_comm]

/-- Slices are cut between characters, cursors read what they are asked for, and a scan through
them comes to its end without a read that fails: it yields the report. -/
theorem cursorPass_total :
    (∀ first last text slice, Text.byteSlice? first last text = some slice ↔
      ∃ before after, text = before ++ slice ++ after ∧ Text.byteSize before = first ∧
        Text.byteSize (before ++ slice) = last) ∧
    (∀ line place, Cursor.ReadsExactly line place) ∧
    ∀ (document : Document) (settings : Settings),
      document.cursorPass? settings =
        some
          { tokens := (document.report settings).tokens
            diagnostics := (document.report settings).diagnostics
            lineCount := document.lines.length
            events := document.events settings } ∧
      ∀ token ∈ (document.report settings).tokens,
        Literal.ofLexeme? token.kind token.lexeme.toList = some token.literal := by
  refine ⟨fun _ _ _ _ => Text.byteSlice?_eq_some_iff, Cursor.readsExactly, ?_⟩
  intro document settings
  refine ⟨?_, fun token member => Document.literal_decoded member⟩
  rw [document.cursorPass?_eq, document.pass_eq]

end LoxLexer
