/- Strict scans accept the sentences of the grammar, and nothing else. -/
import LoxLexer.Proofs.Document.Reading
import LoxLexer.Proofs.Grammar.Sentence

namespace LoxLexer

open Grammar (Sentence)
open Lexeme (Complete leadOf)

def Faultless (findings : List Finding) : Prop :=
  ∀ finding ∈ findings, ∀ fault, finding.found ≠ .fault fault

theorem Faultless.nil : Faultless [] := by
  intro finding member
  cases member

theorem Faultless.cons {column : Nat} {found : Found} {findings : List Finding}
    (noFault : ∀ fault, found ≠ .fault fault) (faultless : Faultless findings) :
    Faultless ({ column, found } :: findings) :=
  List.forall_mem_cons.mpr ⟨noFault, faultless⟩

/-! ### Lines without faults -/

theorem Lexeme.Complete.sentence {kind : Kind} {lexeme rest : List Char}
    (complete : Complete kind lexeme rest) (sentence : Sentence rest) :
    Sentence (lexeme ++ rest) := by
  cases complete with
  | string furtherQuotes unquoted boundary =>
      exact .string furtherQuotes unquoted boundary sentence
  | whole nonempty areDigits boundary noFraction =>
      exact .piece (.whole _ nonempty areDigits) sentence
  | fraction nonempty areDigits placesNonempty arePlaces boundary =>
      exact .piece (.fraction _ _ nonempty areDigits placesNonempty arePlaces) sentence
  | word starts continued boundary => exact .piece (.word _ _ starts continued) sentence
  | symbol symbol boundary => exact .piece (.symbol symbol) sentence

theorem Finds.sentence {column : Nat} {text : List Char} {findings : List Finding}
    (finds : Finds column text findings) (faultless : Faultless findings) : Sentence text := by
  induction finds with
  | done column => exact .empty
  | @blank column c rest findings blank _ ih => exact .piece (.blank c blank) (ih faultless)
  | comment column text => exact .comment text
  | token complete _ ih => exact complete.sentence (ih (List.forall_mem_cons.mp faultless).2)
  | openString unquoted _ ih => exact absurd rfl (faultless _ List.mem_cons_self _)
  | nothing notBlank mark unspelled _ ih => exact absurd rfl (faultless _ List.mem_cons_self _)

/-! ### Sentences -/

theorem Grammar.Sentence.not_openString {body : List Char} (unquoted : ∀ c ∈ body, c ≠ '"') :
    ¬ Sentence ('"' :: body) := by
  intro sentence
  obtain ⟨_, _, _, -, -, closed, -⟩ := sentence.afterQuote
  refine unquoted '"' ?_ rfl
  rw [closed]
  simp

theorem Grammar.Sentence.not_unspelled {first : Char} {rest : List Char}
    (notBlank : Text.isBlank first = false) (mark : leadOf first = .mark)
    (unspelled : ∀ symbol : Symbol, [first] ≠ symbol.spelling.toList) :
    ¬ Sentence (first :: rest) := by
  intro sentence
  rcases sentence.afterMark mark notBlank with ⟨text, split⟩ | ⟨symbol, later, split, -⟩
  · rw [(List.cons.inj split).1] at unspelled
    exact unspelled .slash rfl
  · obtain ⟨start, more, spelled⟩ := symbol.exists_spelling
    obtain ⟨short, shortSpelled⟩ := Symbol.exists_single spelled
    rw [spelled] at split
    rw [(List.cons.inj split).1] at unspelled
    exact unspelled short shortSpelled.symm

theorem Finds.faultless {column : Nat} {text : List Char} {findings : List Finding}
    (finds : Finds column text findings) (sentence : Sentence text) : Faultless findings := by
  induction finds with
  | done column => exact .nil
  | blank blank _ ih => exact ih (sentence.afterBlank blank)
  | comment column text => exact .cons (by simp) .nil
  | token complete _ ih => exact .cons (by simp) (ih (sentence.afterComplete complete))
  | openString unquoted _ ih => exact absurd sentence (Sentence.not_openString unquoted)
  | nothing notBlank mark unspelled _ ih =>
      exact absurd sentence (Sentence.not_unspelled notBlank mark unspelled)

theorem faultless_lineFindings_iff {line : List Char} (oneLine : '\n' ∉ line) :
    Faultless (lineFindings line) ↔ Sentence line := by
  have finds : Finds 0 line (lineFindings line) := finds_findingsFrom oneLine 0
  exact ⟨finds.sentence, finds.faultless⟩

/-! ### Documents -/

theorem Document.diagnostics_eq_nil_iff (document : Document) (settings : Settings) :
    (document.report settings).diagnostics = [] ↔
      ∀ line ∈ document.lines, Faultless (lineFindings line) := by
  rw [document.diagnostics_eq]
  constructor
  · intro none line member finding inLine fault found
    obtain ⟨index, numbered⟩ := List.mem_iff_getElem?.mp member
    obtain ⟨diagnostic, read⟩ : ∃ diagnostic,
        finding.diagnostic? document.file index = some diagnostic := by
      rw [Finding.diagnostic?, found]
      exact ⟨_, rfl⟩
    have entry := Document.mem_readings.mpr ⟨index, line, finding, numbered, inLine, read⟩
    rw [none] at entry
    cases entry
  · intro faultless
    apply List.eq_nil_iff_forall_not_mem.mpr
    intro diagnostic member
    obtain ⟨index, line, finding, numbered, inLine, read⟩ := Document.mem_readings.mp member
    exact faultless line (List.mem_of_getElem? numbered) finding inLine _
      (Finding.diagnostic?_eq_some read).2

theorem Document.scan_strict_isOk_iff (document : Document) (withComments : Bool) :
    (document.scan { mode := .strict, withComments }).isOk = true ↔
      (document.report { mode := .strict, withComments }).diagnostics = [] := by
  unfold Document.scan
  generalize document.report { mode := .strict, withComments } = report
  obtain ⟨tokens, diagnostics⟩ := report
  cases diagnostics with
  | nil => simp [Except.isOk, Except.toBool]
  | cons first later => simp [Except.isOk, Except.toBool]

/-- A strict scan succeeds exactly on the sources of which every line can be cut
into pieces of the grammar. -/
theorem strictTokens_isOk_iff (source : String) (file? : Option String) :
    (strictTokens source file?).isOk = true ↔ ∀ line ∈ Text.lines source.toList, Sentence line := by
  rw [strictTokens, Document.scan_strict_isOk_iff, Document.diagnostics_eq_nil_iff]
  constructor
  · intro faultless line member
    exact (faultless_lineFindings_iff (Text.lineFeed_not_mem_line member)).mp
      (faultless line member)
  · intro sentences line member
    exact (faultless_lineFindings_iff (Text.lineFeed_not_mem_line member)).mpr
      (sentences line member)

end LoxLexer
