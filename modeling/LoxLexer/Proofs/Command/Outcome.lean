/- What a run of the command does.  A file that is no text and, in strict mode, a source with a
fault end the run with code 1 before it prints a token. -/
import LoxLexer.Proofs.Command.Arguments
import LoxLexer.Proofs.Command.Paths
import LoxLexer.Proofs.Command.Stdout
import LoxLexer.Proofs.Diagnostic.Width

namespace LoxLexer.Command

/-! ### Texts of files -/

theorem fromUTF8?_eq_some_iff (content : ByteArray) (text : String) :
    String.fromUTF8? content = some text ↔ content = text.toUTF8 := by
  unfold String.fromUTF8?
  by_cases valid : content.IsValidUTF8
  · rw [dif_pos valid]
    constructor
    · intro decoded
      cases decoded
      rfl
    · rintro rfl
      rfl
  · rw [dif_neg valid]
    constructor
    · intro decoded
      cases decoded
    · rintro rfl
      exact absurd text.isValidUTF8 valid

theorem decodeText_eq_ok_iff (content : ByteArray) (text : String) :
    decodeText content = .ok text ↔ content = text.toUTF8 := by
  rw [← fromUTF8?_eq_some_iff, decodeText]
  cases String.fromUTF8? content <;> simp

theorem decodeText_of_undecoded {content : ByteArray}
    (undecoded : ∀ text : String, content ≠ text.toUTF8) :
    decodeText content = .error .invalidText := by
  have none : String.fromUTF8? content = none := by
    rw [Option.eq_none_iff_forall_ne_some]
    intro text decoded
    exact undecoded text ((fromUTF8?_eq_some_iff content text).mp decoded)
  rw [decodeText, none]

theorem readText_eq_ok_iff (load : String → Except SystemError ByteArray) (path text : String) :
    readText load path = .ok text ↔ load path = .ok text.toUTF8 := by
  unfold readText
  cases load path with
  | ok content => simp only [decodeText_eq_ok_iff, Except.ok.injEq]
  | error error => simp

/-! ### Outcomes of requests -/

def reportOf (path source : String) : Report :=
  ({ source, file := (fileName? path).getD "shell" } : Document).report {}

section

variable (request : Request) (source : String)

theorem Request.tokens_eq :
    ((documentOf request.file source).report request.settings).tokens =
      (reportOf request.file source).tokens.filter
        fun token => !(request.noComments && token.isComment) := by
  cases left : request.noComments with
  | true =>
      simp only [Request.settings, left, Bool.not_true, Bool.true_and]
      exact (documentOf request.file source).tokens_withoutComments _
  | false =>
      simp only [Request.settings, left, Bool.not_false, Bool.false_and]
      exact (List.filter_eq_self.mpr fun _ _ => rfl).symm

def Request.Passes : Prop :=
  request.strict = false ∨ (reportOf request.file source).diagnostics = []

theorem Request.scan_of_passes (passes : request.Passes source) :
    request.scan source =
      .ok ((documentOf request.file source).report request.settings).tokens := by
  rw [Request.scan, Request.settings]
  cases mode : request.strict with
  | false => exact Document.scan_lenient _ _
  | true =>
      have clean := passes.resolve_left (ne_false_of_eq_true mode)
      exact Document.scan_strict_of_no_diagnostics clean

theorem Request.scan_of_earliest {diagnostic : Diagnostic} (strict : request.strict = true)
    (earliest : diagnostic.Earliest (reportOf request.file source).diagnostics) :
    request.scan source = .error diagnostic := by
  rw [Request.scan, Request.settings, strict]
  exact ((documentOf request.file source).settingsEffect.earliest _ diagnostic).mpr earliest

theorem exists_earliest {path : String} (faulty : (reportOf path source).diagnostics ≠ []) :
    ∃ diagnostic : Diagnostic, diagnostic.Earliest (reportOf path source).diagnostics := by
  have ordered := (documentOf path source).diagnostics_ordered {}
  obtain ⟨diagnostic, later, found⟩ := List.exists_cons_of_ne_nil faulty
  exact ⟨diagnostic, (head?_eq_some_iff_earliest ordered diagnostic).mp (congrArg List.head? found)⟩

theorem Request.passes_or_fails :
    request.Passes source ∨
      request.strict = true ∧ ∃ diagnostic : Diagnostic,
        diagnostic.Earliest (reportOf request.file source).diagnostics := by
  cases mode : request.strict with
  | false => exact .inl (.inl mode)
  | true =>
      by_cases clean : (reportOf request.file source).diagnostics = []
      · exact .inl (.inr clean)
      · exact .inr ⟨rfl, exists_earliest source clean⟩

theorem file_of_earliest {path : String} {diagnostic : Diagnostic}
    (earliest : diagnostic.Earliest (reportOf path source).diagnostics) :
    diagnostic.position.file = (fileName? path).getD "shell" := by
  obtain ⟨_, _, -, -, named, -⟩ := Document.exists_foundAt earliest.1
  exact named

variable (elapsed : String)

theorem Request.outcome?_of_passes (passes : request.Passes source) :
    request.outcome? elapsed (.ok source) =
      some
        { code := 0
          stdout := tokenLines ((documentOf request.file source).report request.settings).tokens
          stderr := "Tokenized in " ++ elapsed ++ "\n" } := by
  rw [Request.outcome?, request.scan_of_passes source passes]
  rfl

theorem Request.outcome?_of_earliest {diagnostic : Diagnostic} (strict : request.strict = true)
    (earliest : diagnostic.Earliest (reportOf request.file source).diagnostics) :
    request.outcome? elapsed (.ok source) =
      (diagnostic.render? source).map fun text => { code := 1, stdout := "", stderr := text } :=
  Request.outcome?_of_failure (request.scan_of_earliest source strict earliest) elapsed

/-- Neither a failure nor a diagnostic depends on the comments. -/
theorem Request.outcome?_noComments (noComments : Bool) (read : Except ReadFailure String) :
    (({ request with noComments } : Request).outcome? elapsed read).map
        (fun outcome => (outcome.code, outcome.stderr)) =
      (request.outcome? elapsed read).map fun outcome => (outcome.code, outcome.stderr) := by
  cases read with
  | error failure => rfl
  | ok source =>
      rcases request.passes_or_fails source with passes | ⟨strict, diagnostic, earliest⟩
      · rw [request.outcome?_of_passes source elapsed passes,
          ({ request with noComments } : Request).outcome?_of_passes source elapsed passes]
        rfl
      · rw [request.outcome?_of_earliest source elapsed strict earliest,
          ({ request with noComments } : Request).outcome?_of_earliest source elapsed strict
            earliest]

/-- Without a diagnostic the mode does not matter. -/
theorem Request.outcome?_strict (strict : Bool) (read : Except ReadFailure String)
    (clean : ∀ source, read = .ok source → (reportOf request.file source).diagnostics = []) :
    ({ request with strict } : Request).outcome? elapsed read = request.outcome? elapsed read := by
  cases read with
  | error failure => rfl
  | ok source =>
      have passes := clean source rfl
      rw [request.outcome?_of_passes source elapsed (.inr passes),
        ({ request with strict } : Request).outcome?_of_passes source elapsed (.inr passes)]
      rfl

end

/-! ### Runs of the command -/

/-- How a run on the arguments agrees with what is found in their file. -/
structure RunAgrees (parse : List String → Except Outcome Request)
    (load : String → Except SystemError ByteArray) (arguments : List String) (file : String) :
    Prop where
  succeeds : ∀ elapsed,
    (∃ outcome, run parse load elapsed arguments = some outcome ∧ outcome.code = 0) ↔
      ∃ source : String, load file = .ok source.toUTF8 ∧
        ("--strict" ∉ optionsOf arguments ∨ (reportOf file source).diagnostics = [])
  prints : ∀ elapsed outcome (source : String), load file = .ok source.toUTF8 →
    run parse load elapsed arguments = some outcome → outcome.code = 0 →
      outcome.stdout.toList.splitOn '\n' =
          ((reportOf file source).tokens.filter fun token =>
            !("--no-comments" ∈ optionsOf arguments && token.isComment)).map
              (fun token => token.toString.toList) ++ [[]] ∧
        outcome.stderr = "Tokenized in " ++ elapsed ++ "\n"
  refused : ∀ elapsed error, load file = .error error →
    run parse load elapsed arguments =
      some
        { code := 1
          stdout := ""
          stderr :=
            "Error: Failed to read " ++ file ++ "\n\nCaused by:\n    " ++
              (error.description ++ " (os error " ++ Nat.repr error.number ++ ")") ++ "\n" }
  undecoded : ∀ elapsed content, load file = .ok content →
    (∀ source : String, content ≠ source.toUTF8) →
      run parse load elapsed arguments =
        some
          { code := 1
            stdout := ""
            stderr :=
              "Error: Failed to read " ++ file ++ "\n\nCaused by:\n    " ++
                "stream did not contain valid UTF-8" ++ "\n" }
  faulty : ∀ elapsed (source : String), load file = .ok source.toUTF8 →
    "--strict" ∈ optionsOf arguments → (reportOf file source).diagnostics ≠ [] →
      ∃ diagnostic : Diagnostic, diagnostic.Earliest (reportOf file source).diagnostics ∧
        (∀ name, LastComponent file name → diagnostic.position.file = name) ∧
        ((∀ name, ¬ LastComponent file name) → diagnostic.position.file = "shell") ∧
        ((diagnostic.excerpt source).caretWidth ≤ 65535 →
          ∃ text rest, diagnostic.render? source = some text ∧
            text =
              "Error: " ++ diagnostic.fault.name ++ " (" ++ diagnostic.fault.hint.toString ++ ")" ++
                "\n-> " ++ diagnostic.position.file ++ "\n" ++ rest ∧
            run parse load elapsed arguments = some { code := 1, stdout := "", stderr := text })
  comments : ∀ elapsed before after, arguments = before ++ after → "--" ∉ before →
    "--no-comments" ∉ optionsOf arguments →
      (run parse load elapsed (before ++ "--no-comments" :: after)).map
          (fun outcome => (outcome.code, outcome.stderr)) =
        (run parse load elapsed arguments).map fun outcome => (outcome.code, outcome.stderr)
  strictly : ∀ elapsed before after, arguments = before ++ after → "--" ∉ before →
    "--strict" ∉ optionsOf arguments →
    (∀ source : String, load file = .ok source.toUTF8 → (reportOf file source).diagnostics = []) →
      run parse load elapsed (before ++ "--strict" :: after) = run parse load elapsed arguments

section

variable {parse : List String → Except Outcome Request}
  {load : String → Except SystemError ByteArray} {arguments : List String} {request : Request}
  (accepted : parse arguments = .ok request) (elapsed : String)

include accepted

theorem run_of_accepted :
    run parse load elapsed arguments =
      request.outcome? elapsed (readText load request.file) := by
  rw [run, accepted]

theorem run_of_load {source : String} (loaded : load request.file = .ok source.toUTF8) :
    run parse load elapsed arguments = request.outcome? elapsed (.ok source) := by
  rw [run_of_accepted accepted, (readText_eq_ok_iff load request.file source).mpr loaded]

theorem run_of_refused {error : SystemError} (refused : load request.file = .error error) :
    run parse load elapsed arguments = some (request.unreadable (.system error)) := by
  rw [run_of_accepted accepted, readText, refused]
  rfl

theorem run_of_undecoded {content : ByteArray} (loaded : load request.file = .ok content)
    (undecoded : ∀ source : String, content ≠ source.toUTF8) :
    run parse load elapsed arguments = some (request.unreadable .invalidText) := by
  rw [run_of_accepted accepted, readText, loaded]
  simp only [decodeText_of_undecoded undecoded]
  rfl

theorem passes_of_success {source : String} (loaded : load request.file = .ok source.toUTF8)
    {outcome : Outcome} (ran : run parse load elapsed arguments = some outcome)
    (success : outcome.code = 0) : request.Passes source := by
  rcases request.passes_or_fails source with passes | ⟨strict, diagnostic, earliest⟩
  · exact passes
  · rw [run_of_load accepted elapsed loaded,
      request.outcome?_of_earliest source elapsed strict earliest] at ran
    obtain ⟨text, -, rfl⟩ := Option.map_eq_some_iff.mp ran
    cases success

theorem run_succeeds_iff :
    (∃ outcome, run parse load elapsed arguments = some outcome ∧ outcome.code = 0) ↔
      ∃ source : String, load request.file = .ok source.toUTF8 ∧ request.Passes source := by
  constructor
  · rintro ⟨outcome, ran, success⟩
    -- Both ways of not reading a text end with code 1.
    cases loaded : load request.file with
    | error error =>
        cases (run_of_refused accepted elapsed loaded).symm.trans ran
        cases success
    | ok content =>
        by_cases text : ∃ source : String, content = source.toUTF8
        · obtain ⟨source, rfl⟩ := text
          exact ⟨source, rfl, passes_of_success accepted elapsed loaded ran success⟩
        · cases (run_of_undecoded accepted elapsed loaded (not_exists.mp text)).symm.trans ran
          cases success
  · rintro ⟨source, loaded, passes⟩
    rw [run_of_load accepted elapsed loaded, request.outcome?_of_passes source elapsed passes]
    exact ⟨_, rfl, rfl⟩

theorem run_prints {outcome : Outcome} {source : String}
    (loaded : load request.file = .ok source.toUTF8)
    (ran : run parse load elapsed arguments = some outcome) (success : outcome.code = 0) :
    outcome.stdout.toList.splitOn '\n' =
        ((documentOf request.file source).report request.settings).tokens.map
          (fun token => token.toString.toList) ++ [[]] ∧
      outcome.stderr = "Tokenized in " ++ elapsed ++ "\n" := by
  have passes := passes_of_success accepted elapsed loaded ran success
  rw [run_of_load accepted elapsed loaded, request.outcome?_of_passes source elapsed passes] at ran
  cases ran
  exact ⟨splitOn_tokenLines fun token member => Document.scanned member, rfl⟩

theorem run_of_earliest {source : String} (loaded : load request.file = .ok source.toUTF8)
    (strict : request.strict = true) {diagnostic : Diagnostic}
    (earliest : diagnostic.Earliest (reportOf request.file source).diagnostics)
    (narrow : (diagnostic.excerpt source).caretWidth ≤ 65535) :
    ∃ text rest, diagnostic.render? source = some text ∧
      text =
        "Error: " ++ diagnostic.fault.name ++ " (" ++ diagnostic.fault.hint.toString ++ ")" ++
          "\n-> " ++ diagnostic.position.file ++ "\n" ++ rest ∧
      run parse load elapsed arguments = some { code := 1, stdout := "", stderr := text } := by
  obtain ⟨text, rendered⟩ := (Excerpt.exists_text_iff _).mpr narrow
  obtain ⟨rest, fronted⟩ := Excerpt.exists_rest rendered
  refine ⟨text, rest, rendered, ?_, ?_⟩
  · rw [← Fault.heading_eq]
    exact fronted
  · rw [run_of_load accepted elapsed loaded,
      request.outcome?_of_earliest source elapsed strict earliest, Diagnostic.render?, rendered]
    rfl

end

/-- A run prints the tokens that are found, or why there are none, and never both. -/
theorem run_agrees {parse : List String → Except Outcome Request} (reads : ReadsArguments parse)
    {arguments : List String} {request : Request} {file : String}
    (accepted : parse arguments = .ok request) (only : filesOf arguments = [file])
    (load : String → Except SystemError ByteArray) : RunAgrees parse load arguments file := by
  obtain rfl : request.file = file :=
    List.singleton_inj.mp ((reads.file arguments request accepted).symm.trans only)
  have strict := reads.strict arguments request accepted
  have noComments := reads.noComments arguments request accepted
  have lenient : "--strict" ∉ optionsOf arguments ↔ request.strict = false := by
    rw [← strict, Bool.not_eq_true]
  exact
    { succeeds := by
        intro elapsed
        simp only [lenient]
        exact run_succeeds_iff accepted elapsed
      prints := by
        intro elapsed outcome source loaded ran success
        have flag : decide ("--no-comments" ∈ optionsOf arguments) = request.noComments := by
          rw [Bool.eq_iff_iff, decide_eq_true_eq, noComments]
        rw [flag, ← request.tokens_eq]
        exact run_prints accepted elapsed loaded ran success
      refused := fun elapsed _ => run_of_refused accepted elapsed
      undecoded := fun elapsed _ => run_of_undecoded accepted elapsed
      faulty := by
        intro elapsed source loaded given faulty
        obtain ⟨diagnostic, earliest⟩ := exists_earliest source faulty
        have named := file_of_earliest source earliest
        refine ⟨diagnostic, earliest, ?_, ?_,
          run_of_earliest accepted elapsed loaded (strict.mpr given) earliest⟩
        · intro name last
          rw [named, (fileName?_eq_some_iff request.file name).mpr last, Option.getD_some]
        · intro noName
          have unnamed : fileName? request.file = none := by
            rw [Option.eq_none_iff_forall_ne_some]
            exact fun name found => noName name ((fileName?_eq_some_iff _ _).mp found)
          rw [named, unnamed, Option.getD_none]
      comments := by
        rintro elapsed before after rfl noDashes absent
        rw [run_of_accepted (reads.parse_insert noDashes rfl accepted absent),
          run_of_accepted accepted]
        exact request.outcome?_noComments elapsed true _
      strictly := by
        rintro elapsed before after rfl noDashes absent clean
        rw [run_of_accepted (reads.parse_insert noDashes rfl accepted absent),
          run_of_accepted accepted]
        apply request.outcome?_strict elapsed true
        intro source read
        exact clean source ((readText_eq_ok_iff load request.file source).mp read) }

def faultySample : String :=
  "// a\nvar b\n  @"

theorem run_agrees_faultySample :
    let load : String → Except SystemError ByteArray := fun _ => .ok faultySample.toUTF8
    let arguments := ["--strict", "src/a.lox"]
    ReadsArguments sampleReader ∧
      sampleReader arguments = .ok { file := "src/a.lox", strict := true, noComments := false } ∧
      filesOf arguments = ["src/a.lox"] ∧
      RunAgrees sampleReader load arguments "src/a.lox" ∧
      ∃ text, run sampleReader load "1ms" arguments =
        some { code := 1, stdout := "", stderr := text } := by
  intro load arguments
  have accepted : sampleReader arguments =
      .ok { file := "src/a.lox", strict := true, noComments := false } := rfl
  have only : filesOf arguments = ["src/a.lox"] := rfl
  have agrees := run_agrees sampleReader_reads accepted only load
  have named : fileName? "src/a.lox" = some "a.lox" := by decide
  have diagnostics : (reportOf "src/a.lox" faultySample).diagnostics =
      [{ fault := .unrecognised "@", position := { line := 2, column := 2, file := "a.lox" } }] := by
    rw [reportOf, named]
    rfl
  have faulty : (reportOf "src/a.lox" faultySample).diagnostics ≠ [] := by
    rw [diagnostics]
    exact List.cons_ne_nil _ _
  obtain ⟨diagnostic, earliest, -, -, shown⟩ :=
    agrees.faulty "1ms" faultySample rfl (by decide) faulty
  have same := earliest.1
  rw [diagnostics, List.mem_singleton] at same
  subst same
  obtain ⟨text, _, -, -, ran⟩ := shown (by decide)
  exact ⟨sampleReader_reads, accepted, only, agrees, text, ran⟩

end LoxLexer.Command
