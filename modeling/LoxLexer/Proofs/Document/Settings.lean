/- Settings change only what they name, and not what is found. -/
import LoxLexer.Proofs.Document.Partition

namespace LoxLexer

/-! ### The earliest diagnostic -/

/-- The diagnostic is one of the list, and it stands before all others. -/
def Diagnostic.Earliest (diagnostic : Diagnostic) (diagnostics : List Diagnostic) : Prop :=
  diagnostic ∈ diagnostics ∧
    ∀ other ∈ diagnostics, other ≠ diagnostic → Precedes diagnostic.place other.place

theorem Precedes.asymm {first second : Nat × Nat} (before : Precedes first second) :
    ¬ Precedes second first := by
  unfold Precedes at before ⊢
  omega

theorem Document.diagnostics_ordered (document : Document) (settings : Settings) :
    (document.report settings).diagnostics.Pairwise fun first second =>
      Precedes first.place second.place := by
  rw [document.diagnostics_eq]
  apply readings_ordered _ document.findings_ordered
  intro index finding diagnostic read
  rw [Diagnostic.place, (Finding.diagnostic?_eq_some read).1]

theorem head?_eq_some_iff_earliest {diagnostics : List Diagnostic}
    (ordered : diagnostics.Pairwise fun first second => Precedes first.place second.place)
    (diagnostic : Diagnostic) :
    diagnostics.head? = some diagnostic ↔ diagnostic.Earliest diagnostics := by
  cases diagnostics with
  | nil => simp [Diagnostic.Earliest]
  | cons first later =>
      have firstBefore := (List.pairwise_cons.mp ordered).1
      rw [List.head?_cons, Option.some.injEq]
      constructor
      · rintro rfl
        refine ⟨List.mem_cons_self, ?_⟩
        intro other member different
        exact firstBefore other ((List.mem_cons.mp member).resolve_left different)
      · rintro ⟨member, least⟩
        rcases List.mem_cons.mp member with same | inLater
        · exact same.symm
        · by_cases same : first = diagnostic
          · exact same
          -- It cannot stand both before and after the first one.
          · have back := least first List.mem_cons_self same
            exact absurd back (firstBefore diagnostic inLater).asymm

/-! ### Modes -/

theorem Document.scan_lenient (document : Document) (withComments : Bool) :
    document.scan { mode := .lenient, withComments } =
      .ok (document.report { mode := .lenient, withComments }).tokens := by
  rfl

theorem Document.scan_strict_eq_error_iff (document : Document) (withComments : Bool)
    (diagnostic : Diagnostic) :
    document.scan { mode := .strict, withComments } = .error diagnostic ↔
      (document.report { mode := .strict, withComments }).diagnostics.head? = some diagnostic := by
  unfold Document.scan
  generalize document.report { mode := .strict, withComments } = report
  obtain ⟨tokens, diagnostics⟩ := report
  cases diagnostics with
  | nil => simp
  | cons first later => simp

theorem Document.scan_strict_of_no_diagnostics {document : Document} {withComments : Bool}
    (none : (document.report { mode := .strict, withComments }).diagnostics = []) :
    document.scan { mode := .strict, withComments } =
      .ok (document.report { mode := .strict, withComments }).tokens := by
  simp only [Document.scan, none]

/-! ### Comments -/

/-- Leaving comments out is the same as taking them from the tokens later. -/
theorem Document.tokens_withoutComments (document : Document) (mode : Mode) :
    (document.report { mode, withComments := false }).tokens =
      (document.report { mode, withComments := true }).tokens.filter (!·.isComment) := by
  have endKept : [Token.endOfSource document.lines.length].filter (!·.isComment) =
      [Token.endOfSource document.lines.length] := by
    rfl
  rw [document.tokens_withComments, document.tokens_eq, List.filter_append, endKept]
  -- Without comments, a token is kept if it is none.
  rfl

/-! ### Settings -/

/-- What settings decide about a document, and what they have no influence on. -/
structure Document.SettingsEffect (document : Document) : Prop where
  mode : ∀ withComments,
    document.report { mode := .strict, withComments } =
      document.report { mode := .lenient, withComments }
  diagnostics : ∀ mode,
    (document.report { mode, withComments := false }).diagnostics =
      (document.report { mode, withComments := true }).diagnostics
  tokens : ∀ mode,
    (document.report { mode, withComments := false }).tokens =
      (document.report { mode, withComments := true }).tokens.filter (!·.isComment)
  lenient : ∀ withComments,
    document.scan { mode := .lenient, withComments } =
      .ok (document.report { mode := .lenient, withComments }).tokens
  fails : ∀ withComments,
    (∃ diagnostic, document.scan { mode := .strict, withComments } = .error diagnostic) ↔
      (document.report { mode := .strict, withComments }).diagnostics ≠ []
  earliest : ∀ withComments diagnostic,
    document.scan { mode := .strict, withComments } = .error diagnostic ↔
      diagnostic.Earliest (document.report { mode := .strict, withComments }).diagnostics
  succeeds : ∀ withComments,
    (document.report { mode := .strict, withComments }).diagnostics = [] →
      document.scan { mode := .strict, withComments } =
        document.scan { mode := .lenient, withComments }

theorem Document.settingsEffect (document : Document) : document.SettingsEffect where
  mode := by
    intro withComments
    rfl
  diagnostics := by
    intro mode
    rfl
  tokens := document.tokens_withoutComments
  lenient := document.scan_lenient
  fails := by
    intro withComments
    simp only [Document.scan_strict_eq_error_iff]
    rw [← List.isSome_head?, Option.isSome_iff_exists]
  earliest := by
    intro withComments diagnostic
    rw [Document.scan_strict_eq_error_iff]
    exact head?_eq_some_iff_earliest (document.diagnostics_ordered _) diagnostic
  succeeds := by
    intro withComments none
    rw [Document.scan_strict_of_no_diagnostics none, Document.scan_lenient]
    rfl

/-- Settings change only what they name, and the short forms are scans under some of
them. -/
theorem scan_of_settings (source : String) (file? : Option String) :
    (Document.ofSource source file?).SettingsEffect ∧
      lenientTokens source file? = ((Document.ofSource source file?).report {}).tokens ∧
      strictTokens source file? = (Document.ofSource source file?).scan { mode := .strict } ∧
      ∀ settings,
        tokensWith source file? settings = (Document.ofSource source file?).scan settings := by
  refine ⟨Document.settingsEffect _, ?_, ?_, ?_⟩
  · rfl
  · rfl
  · intro settings
    rfl

end LoxLexer
