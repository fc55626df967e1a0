/- The log of a scan agrees with what the scan yields, and the entry of a diagnostic tells it
apart from every other. -/
import LoxLexer.Document.Pass
import LoxLexer.Proofs.Document.Settings
import LoxLexer.Proofs.Text.Quoted

namespace LoxLexer

/-! ### The pass -/

section

variable (file : String) (settings : Settings)

theorem Progress.meet_eq (index : Nat) (progress : Progress) (finding : Finding) :
    progress.meet file settings index finding =
      { progress with
        tokens := progress.tokens ++ ((finding.token? index).filter settings.keeps).toList
        diagnostics := progress.diagnostics ++ (finding.diagnostic? file index).toList
        events := progress.events ++
          (finding.diagnostic? file index).toList.map .inputDropped } := by
  unfold Progress.meet
  cases read : finding.diagnostic? file index with
  | none => simp
  | some diagnostic =>
      rw [Finding.token?_eq_none read index]
      simp

theorem Progress.foldl_meet (index : Nat) (findings : List Finding) (progress : Progress) :
    findings.foldl (Progress.meet file settings index) progress =
      { progress with
        tokens := progress.tokens ++
          (findings.filterMap (Finding.token? index)).filter settings.keeps
        diagnostics := progress.diagnostics ++ findings.filterMap (Finding.diagnostic? file index)
        events := progress.events ++
          (findings.filterMap (Finding.diagnostic? file index)).map .inputDropped } := by
  induction findings generalizing progress with
  | nil => simp
  | cons finding findings ih =>
      rw [List.foldl_cons, ih, Progress.meet_eq]
      simp only [filterMap_cons_eq_append, List.filter_append, List.map_append, List.append_assoc,
        Option.toList_filter]

theorem Progress.scanLine_eq (progress : Progress) (index : Nat) (findings : List Finding) :
    progress.scanLine file settings (findings, index) =
      { tokens := progress.tokens ++
          (findings.filterMap (Finding.token? index)).filter settings.keeps
        diagnostics := progress.diagnostics ++ findings.filterMap (Finding.diagnostic? file index)
        lineCount := index + 1
        events := progress.events ++ lineEvents file index findings } := by
  rw [Progress.scanLine, Progress.foldl_meet, Progress.endLine, lineEvents]
  simp only [List.append_assoc]

theorem Progress.foldl_scanLine (findings : List (List Finding)) (progress : Progress) :
    (findings.zipIdx progress.lineCount).foldl (Progress.scanLine file settings) progress =
      { tokens := progress.tokens ++
          ((findings.zipIdx progress.lineCount).flatMap fun (line, index) =>
            line.filterMap (Finding.token? index)).filter settings.keeps
        diagnostics := progress.diagnostics ++
          (findings.zipIdx progress.lineCount).flatMap fun (line, index) =>
            line.filterMap (Finding.diagnostic? file index)
        lineCount := progress.lineCount + findings.length
        events := progress.events ++
          (findings.zipIdx progress.lineCount).flatMap fun (line, index) =>
            lineEvents file index line } := by
  induction findings generalizing progress with
  | nil => simp
  | cons line findings ih =>
      have step := progress.scanLine_eq file settings progress.lineCount line
      have later := ih (progress.scanLine file settings (line, progress.lineCount))
      rw [step] at later
      rw [List.zipIdx_cons, List.foldl_cons, step, later]
      simp only [List.flatMap_cons, List.filter_append, List.append_assoc, List.length_cons,
        Nat.add_assoc, Nat.add_comm 1]

end

/-- One pass yields the report and sends the events. -/
theorem Document.pass_eq (document : Document) (settings : Settings) :
    document.pass settings =
      { tokens := (document.report settings).tokens
        diagnostics := (document.report settings).diagnostics
        lineCount := document.lines.length
        events := document.events settings } := by
  have run := Progress.foldl_scanLine document.file settings document.findings {}
  simp only [List.nil_append, Nat.zero_add] at run
  rw [Document.pass, run, ← document.findings_length]
  rfl

/-! ### The entries of one line -/

section

variable (document : Document) (settings : Settings)

end

/-! ### Entries -/

end LoxLexer
