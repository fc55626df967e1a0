/- The style of line ends makes no difference to what is found. -/
import LoxLexer.Document
import LoxLexer.Proofs.Text.LineEnds

namespace LoxLexer

def Document.withReturns (document : Document) (chosen : Nat → Bool) : Document :=
  { document with source := String.ofList (Text.withReturns chosen 0 document.source.toList) }

def Document.withFeeds (document : Document) (count : Nat) : Document :=
  { document with
    source := String.ofList (document.source.toList ++ List.replicate count '\n') }

/-- A report depends on the lines of a source and on its name, and on nothing else. -/
theorem Document.report_eq_of_lines {first second : Document}
    (sameLines : first.lines = second.lines) (sameFile : first.file = second.file)
    (settings : Settings) :
    first.report settings = second.report settings := by
  rw [Document.report, Document.report, Document.findings, Document.findings, sameLines, sameFile]

/-- Documents that differ only in how lines are ended, or in line feeds at the end, have
the same report. -/
theorem report_of_lineEnds (document : Document) (settings : Settings) :
    (¬ ['\r', '\n'] <:+: document.source.toList →
      ∀ chosen, (document.withReturns chosen).report settings = document.report settings) ∧
    (document.source ≠ "" →
      ∀ count, (document.withFeeds count).report settings = document.report settings) := by
  constructor
  · intro plain chosen
    have sameLines : (document.withReturns chosen).lines = document.lines := by
      rw [Document.lines, Document.lines, Document.withReturns, String.toList_ofList]
      exact Text.lines_withReturns plain
    exact Document.report_eq_of_lines sameLines rfl settings
  · intro nonempty count
    have someText : document.source.toList ≠ [] := by simpa using nonempty
    have sameLines : (document.withFeeds count).lines = document.lines := by
      rw [Document.lines, Document.lines, Document.withFeeds, String.toList_ofList]
      exact Text.lines_append_feeds someText count
    exact Document.report_eq_of_lines sameLines rfl settings

def lineEndSample : Document :=
  { source := "// a\n\n\"b\nc", file := "shell" }

theorem report_of_lineEnds_sample :
    let chosen : Nat → Bool := fun index => index = 4 || index = 8
    (lineEndSample.withReturns chosen).source = "// a\r\n\n\"b\r\nc" ∧
      ¬ ['\r', '\n'] <:+: lineEndSample.source.toList ∧ lineEndSample.source ≠ "" ∧
      (lineEndSample.withReturns chosen).report {} = lineEndSample.report {} ∧
      (lineEndSample.withFeeds 2).report {} = lineEndSample.report {} := by
  have noReturn : '\r' ∉ lineEndSample.source.toList := by decide
  have plain : ¬ ['\r', '\n'] <:+: lineEndSample.source.toList :=
    fun pair => noReturn (pair.subset List.mem_cons_self)
  have nonempty : lineEndSample.source ≠ "" := by decide
  exact ⟨by decide, plain, nonempty, (report_of_lineEnds lineEndSample {}).1 plain _,
    (report_of_lineEnds lineEndSample {}).2 nonempty 2⟩

end LoxLexer
