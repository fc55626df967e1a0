/- Passing over a fault is the same as reading white space in its place. -/
import LoxLexer.Proofs.Document.Partition
import LoxLexer.Proofs.Finding.Recovery

namespace LoxLexer

def placed (diagnostics : List Diagnostic) (line column : Nat) : Bool :=
  diagnostics.any fun diagnostic => diagnostic.place = (line, column)

/-- The document with a space in the place of each diagnostic. -/
def Document.blanked (document : Document) (diagnostics : List Diagnostic) : Document :=
  { document with
    source := String.ofList (Text.blankFrom (placed diagnostics) 0 0 document.source.toList) }

/-! ### Readings without faults -/

theorem readings_filter {α : Type} {read : Nat → Finding → Option α} {keep : Finding → Bool}
    (unread : ∀ index finding, keep finding = false → read index finding = none)
    (findings : List (List Finding)) :
    readings read (findings.map (List.filter keep)) = readings read findings := by
  have same : ∀ index, (fun finding => if keep finding = true then read index finding else none) =
      read index := by
    intro index
    funext finding
    cases kept : keep finding with
    | true => rfl
    | false => exact (unread index finding kept).symm
  unfold readings
  rw [List.zipIdx_map, List.flatMap_map]
  congr 1
  funext numbered
  exact List.filterMap_filter.trans
    (congrArg (fun entry => numbered.1.filterMap entry) (same numbered.2))

theorem Finding.token?_of_isFault {finding : Finding} (fault : finding.isFault = true)
    (index : Nat) : finding.token? index = none := by
  obtain ⟨column, found⟩ := finding
  cases found with
  | fault fault => rfl
  | _ => cases fault

theorem Finding.exists_diagnostic {finding : Finding} (fault : finding.isFault = true)
    (file : String) (index : Nat) :
    ∃ diagnostic, finding.diagnostic? file index = some diagnostic := by
  obtain ⟨column, found⟩ := finding
  cases found with
  | fault fault => exact ⟨_, rfl⟩
  | _ => cases fault

theorem Finding.isFault_of_diagnostic? {finding : Finding} {file : String} {index : Nat}
    {diagnostic : Diagnostic} (read : finding.diagnostic? file index = some diagnostic) :
    finding.isFault = true := by
  rw [Finding.isFault, (Finding.diagnostic?_eq_some read).2]

theorem diagnostics_without_faults (file : String) (findings : List (List Finding)) :
    readings (Finding.diagnostic? file) (findings.map (List.filter (!·.isFault))) = [] := by
  apply List.eq_nil_iff_forall_not_mem.mpr
  intro diagnostic member
  obtain ⟨index, line, finding, numbered, inLine, read⟩ := mem_readings.mp member
  obtain ⟨findings, -, rfl⟩ := List.mem_map.mp (List.mem_of_getElem? numbered)
  have noFault := (List.mem_filter.mp inLine).2
  rw [Finding.isFault_of_diagnostic? read] at noFault
  cases noFault

/-! ### Places of diagnostics -/

section

variable (document : Document) (settings : Settings)

theorem Document.faultsChosen {line : Nat} {text : List Char}
    (numbered : document.lines[line]? = some text) :
    FaultsChosen (placed (document.report settings).diagnostics) line 0 (lineFindings text) := by
  intro place _
  rw [placed, List.any_eq_true]
  constructor
  · rintro ⟨diagnostic, member, atPlace⟩
    obtain ⟨otherText, finding, otherNumbered, inLine, -, read⟩ :=
      Document.exists_finding_of_diagnostic member (of_decide_eq_true atPlace)
    obtain rfl := Option.some.inj (numbered.symm.trans otherNumbered)
    have position := (Finding.diagnostic?_eq_some read).1
    refine ⟨finding, inLine, Finding.isFault_of_diagnostic? read, ?_⟩
    have sameColumn := congrArg Prod.snd (of_decide_eq_true atPlace)
    rw [Diagnostic.place, position] at sameColumn
    exact sameColumn
  · rintro ⟨finding, inLine, fault, rfl⟩
    obtain ⟨diagnostic, read⟩ := Finding.exists_diagnostic fault document.file line
    have position := (Finding.diagnostic?_eq_some read).1
    refine ⟨diagnostic, ?_, decide_eq_true ?_⟩
    · exact Document.mem_readings.mpr ⟨line, text, finding, numbered, inLine, read⟩
    · rw [Diagnostic.place, position]

theorem Document.diagnostics_inside :
    Text.Inside (placed (document.report settings).diagnostics) document.lines := by
  intro line column chosen
  rw [placed, List.any_eq_true] at chosen
  obtain ⟨diagnostic, member, atPlace⟩ := chosen
  obtain ⟨text, finding, numbered, inLine, covers, -⟩ :=
    Document.exists_finding_of_diagnostic member (of_decide_eq_true atPlace)
  have bounds := (Document.tiles_of_findings numbered).bounds finding inLine
  unfold Finding.Covers at covers
  exact ⟨text, numbered, by omega⟩

/-! ### The blanked document -/

attribute [ext] Report

theorem Document.lines_blanked :
    (document.blanked (document.report settings).diagnostics).lines =
      document.lines.mapIdx fun index line =>
        Text.blankFrom (placed (document.report settings).diagnostics) index 0 line := by
  rw [Document.lines, Document.blanked, String.toList_ofList]
  exact Text.lines_blankFrom (document.diagnostics_inside settings)

theorem Document.findings_blanked :
    (document.blanked (document.report settings).diagnostics).findings =
      document.findings.map (List.filter (!·.isFault)) := by
  apply List.ext_getElem?
  intro index
  rw [Document.findings_getElem?, document.lines_blanked settings, List.getElem?_mapIdx,
    List.getElem?_map, Document.findings_getElem?]
  cases numbered : document.lines[index]? with
  | none => rfl
  | some line =>
      have oneLine := Document.oneLine_of_numbered numbered
      have finds := (Document.finds_of_numbered numbered).blanked oneLine
        (document.faultsChosen settings numbered)
      exact congrArg some (finds.findingsFrom_eq (Text.lineFeed_not_mem_blankFrom oneLine))

theorem Document.report_blanked (mode : Mode) :
    (document.blanked (document.report settings).diagnostics).report { settings with mode } =
      { tokens := (document.report settings).tokens, diagnostics := [] } := by
  have lineCount : (document.blanked (document.report settings).diagnostics).lines.length =
      document.lines.length := by
    rw [document.lines_blanked settings, List.length_mapIdx]
  have tokens : ((document.blanked (document.report settings).diagnostics).report
      { settings with mode }).tokens = (document.report settings).tokens := by
    rw [Document.tokens_eq, document.findings_blanked settings, lineCount, document.tokens_eq,
      readings_filter]
    · rfl
    · intro index finding dropped
      exact Finding.token?_of_isFault (by simpa using dropped) index
  have diagnostics : ((document.blanked (document.report settings).diagnostics).report
      { settings with mode }).diagnostics = [] := by
    rw [Document.diagnostics_eq, document.findings_blanked settings]
    exact diagnostics_without_faults _ _
  exact Report.ext tokens diagnostics

/-- Every diagnostic is at a character of a line.  With spaces in the place of these
characters the source has the same tokens, and nothing is wrong with it. -/
theorem report_of_blanked :
    let report := document.report settings
    let blanked := document.blanked report.diagnostics
    Text.Inside (placed report.diagnostics) document.lines ∧
      blanked.report settings = { tokens := report.tokens, diagnostics := [] } ∧
      blanked.scan { settings with mode := .strict } = .ok report.tokens := by
  refine ⟨document.diagnostics_inside settings, document.report_blanked settings settings.mode, ?_⟩
  unfold Document.scan
  rw [document.report_blanked settings .strict]

end

example :
    let document : Document := { source := "a @\n\"b", file := "shell" }
    (document.blanked (document.report {}).diagnostics).source = "a  \n b" := by
  decide

end LoxLexer
