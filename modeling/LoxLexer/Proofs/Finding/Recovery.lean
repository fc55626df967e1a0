/- The findings of a line whose faults are blanked.  A space in the place of a fault neither
prolongs the lexeme before it nor starts one. -/
import LoxLexer.Proofs.Finding.Coverage
import LoxLexer.Proofs.Lexeme.Spaced
import LoxLexer.Proofs.Text.Blanking

namespace LoxLexer

open Lexeme (Complete)
open Text (StartsOutside blankFrom)

def Finding.isFault (finding : Finding) : Bool :=
  match finding.found with
  | .fault _ => true
  | _ => false

section

variable {chosen : Nat → Nat → Bool} {line column : Nat}

/-! ### Lexemes before blanked text -/

theorem Text.StartsOutside.blanked {inClass : Char → Bool} {text : List Char}
    (outside : StartsOutside inClass text) (space : inClass ' ' = false) :
    StartsOutside inClass (blankFrom chosen line column text) := by
  intro first rest starts
  rcases Text.blankFrom_eq_cons starts with rfl | ⟨_, _, later, split, -⟩
  · exact space
  · exact outside first later split

theorem Lexeme.EndsSymbol.blanked {lexeme rest : List Char}
    (boundary : Lexeme.EndsSymbol lexeme rest) :
    Lexeme.EndsSymbol lexeme (blankFrom chosen line column rest) := by
  intro next after starts
  rcases Text.blankFrom_eq_cons starts with rfl | ⟨_, _, later, split, -⟩
  · have spaced : ∀ next after, [' '] = next :: after → Text.isBlank next = true := by
      rintro next after split
      cases split
      decide
    exact Lexeme.endsSymbol_of_spaced spaced ' ' [] rfl
  · exact boundary next later split

/-- A lexeme is still whole if characters after it are replaced by spaces. -/
theorem Lexeme.Complete.blanked {kind : Kind} {lexeme rest : List Char}
    (complete : Complete kind lexeme rest) :
    Complete kind lexeme (blankFrom chosen line column rest) := by
  cases complete with
  | string furtherQuotes unquoted boundary =>
      refine .string furtherQuotes unquoted ?_
      intro quote
      obtain ⟨after, starts⟩ := List.head?_eq_some_iff.mp quote
      rcases Text.blankFrom_eq_cons starts with impossible | ⟨_, _, later, rfl, -⟩
      · cases impossible
      · exact boundary rfl
  | whole nonempty areDigits boundary noFraction =>
      refine .whole nonempty areDigits (boundary.blanked rfl) ?_
      intro after starts
      rcases Text.blankFrom_eq_cons starts with impossible | ⟨_, _, later, split, rfl⟩
      · cases impossible
      · exact (noFraction later split).blanked rfl
  | fraction nonempty areDigits placesNonempty arePlaces boundary =>
      exact .fraction nonempty areDigits placesNonempty arePlaces (boundary.blanked rfl)
  | word starts continued boundary => exact .word starts continued (boundary.blanked rfl)
  | symbol symbol boundary => exact .symbol symbol boundary.blanked

/-! ### Chosen faults -/

/-- From the given column on, the characters of faults are chosen and no others. -/
def FaultsChosen (chosen : Nat → Nat → Bool) (line column : Nat) (findings : List Finding) : Prop :=
  ∀ place, column ≤ place →
    (chosen line place = true ↔
      ∃ finding ∈ findings, finding.isFault = true ∧ finding.column = place)

variable {findings : List Finding}

theorem FaultsChosen.later {next : Nat} {head : Finding}
    (faults : FaultsChosen chosen line column (head :: findings)) (behind : head.column < next)
    (further : column ≤ next) : FaultsChosen chosen line next findings := by
  intro place atLeast
  have notHead : head.column ≠ place := by omega
  rw [faults place (by omega)]
  simp [notHead]

theorem FaultsChosen.unchosen (faults : FaultsChosen chosen line column findings) {next : Nat}
    (behind : ∀ finding ∈ findings, finding.isFault = true → next ≤ finding.column) :
    ∀ place, column ≤ place → place < next → chosen line place = false := by
  intro place atLeast below
  rw [Bool.eq_false_iff]
  intro here
  obtain ⟨finding, member, fault, columnEq⟩ := (faults place atLeast).mp here
  have further := behind finding member fault
  omega

theorem FaultsChosen.blankFrom_fault {fault : Fault} {c : Char} {rest : List Char}
    (faults : FaultsChosen chosen line column ({ column, found := .fault fault } :: findings))
    (oneLine : '\n' ∉ c :: rest) :
    blankFrom chosen line column (c :: rest) = ' ' :: blankFrom chosen line (column + 1) rest := by
  have notFeed : c ≠ '\n' := fun feed => oneLine (List.mem_cons.mpr (.inl feed.symm))
  have here : chosen line column = true :=
    (faults column (Nat.le_refl column)).mpr ⟨_, List.mem_cons_self, rfl, rfl⟩
  rw [Text.blankFrom_cons notFeed, if_pos here]

theorem FaultsChosen.blankFrom_taken {taken rest : List Char}
    (faults : FaultsChosen chosen line column findings) (oneLine : '\n' ∉ taken ++ rest)
    (behind : ∀ finding ∈ findings, finding.isFault = true →
      column + taken.length ≤ finding.column) :
    blankFrom chosen line column (taken ++ rest) =
      taken ++ blankFrom chosen line (column + taken.length) rest := by
  have takenOneLine : '\n' ∉ taken := fun feed => oneLine (List.mem_append_left rest feed)
  rw [Text.blankFrom_append takenOneLine,
    Text.blankFrom_eq_self takenOneLine (faults.unchosen behind)]

/-! ### The blanked line -/

/-- With spaces in the place of its faults a line has the same tokens and comments. -/
theorem Finds.blanked {text : List Char} (finds : Finds column text findings)
    (oneLine : '\n' ∉ text) (faults : FaultsChosen chosen line column findings) :
    Finds column (blankFrom chosen line column text) (findings.filter (!·.isFault)) := by
  induction finds with
  | done column => exact .done column
  | @blank column c rest findings blank finds ih =>
      have behind : ∀ finding ∈ findings, finding.isFault = true → column + 1 ≤ finding.column :=
        fun finding member _ => (finds.tiles.bounds finding member).1
      have restOneLine : '\n' ∉ rest := fun feed => oneLine (List.mem_cons_of_mem c feed)
      have kept : blankFrom chosen line column ([c] ++ rest) =
          [c] ++ blankFrom chosen line (column + 1) rest :=
        faults.blankFrom_taken oneLine behind
      rw [← List.singleton_append, kept]
      exact .blank blank (ih restOneLine fun place atLeast => faults place (by omega))
  | comment column text =>
      have noFault : ∀ place, column ≤ place → place < column + (text.length + 2) →
          chosen line place = false := by
        apply faults.unchosen
        intro finding member fault
        rw [List.mem_singleton.mp member] at fault
        cases fault
      rw [Text.blankFrom_eq_self oneLine noFault]
      exact .comment column text
  | @token column kind lexeme rest findings complete finds ih =>
      have behind : ∀ finding ∈ { column, found := .token kind lexeme } :: findings,
          finding.isFault = true → column + lexeme.length ≤ finding.column := by
        intro finding member fault
        rcases List.mem_cons.mp member with rfl | later
        · cases fault
        · exact (finds.tiles.bounds finding later).1
      have restOneLine : '\n' ∉ rest := fun feed => oneLine (List.mem_append_right lexeme feed)
      have laterFaults : FaultsChosen chosen line (column + lexeme.length) findings := by
        obtain ⟨first, more, rfl, -⟩ := complete.head_not_blank
        exact faults.later (by simp) (by simp)
      -- No fault is inside the lexeme, and a space behind it leaves it whole.
      rw [faults.blankFrom_taken oneLine behind]
      exact .token complete.blanked (ih restOneLine laterFaults)
  | @openString column body findings unquoted finds ih =>
      have restOneLine : '\n' ∉ body := fun feed => oneLine (List.mem_cons_of_mem '"' feed)
      -- Where the fault was there is a blank now.
      rw [faults.blankFrom_fault oneLine]
      exact .blank (by decide) (ih restOneLine (faults.later (by simp) (by simp)))
  | @nothing column first rest findings notBlank mark unspelled finds ih =>
      have restOneLine : '\n' ∉ rest := fun feed => oneLine (List.mem_cons_of_mem first feed)
      rw [faults.blankFrom_fault oneLine]
      exact .blank (by decide) (ih restOneLine (faults.later (by simp) (by simp)))

end

end LoxLexer
