/- What is found in the front of a line.  It stays the same if the rest of the line is exchanged
for one that looks alike, unless the front has an open string. -/
import LoxLexer.Proofs.Finding.Coverage
import LoxLexer.Proofs.Lexeme.Lookahead

namespace LoxLexer

open Lexeme (Complete LookAlike leadOf)

/-- The findings of a text that stands before the given rest of its line. -/
inductive FindsBefore (rest : List Char) : Nat → List Char → List Finding → Prop
  | done (column : Nat) : FindsBefore rest column [] []
  | blank {column : Nat} {c : Char} {front : List Char} {findings : List Finding} :
      Text.isBlank c = true → FindsBefore rest (column + 1) front findings →
      FindsBefore rest column (c :: front) findings
  | token {column : Nat} {kind : Kind} {lexeme front : List Char} {findings : List Finding} :
      Complete kind lexeme (front ++ rest) →
      FindsBefore rest (column + lexeme.length) front findings →
      FindsBefore rest column (lexeme ++ front)
        ({ column, found := .token kind lexeme } :: findings)
  | openString {column : Nat} {front : List Char} {findings : List Finding} :
      (∀ c ∈ front ++ rest, c ≠ '"') → FindsBefore rest (column + 1) front findings →
      FindsBefore rest column ('"' :: front)
        ({ column, found := .fault (.unterminated (String.ofList ('"' :: (front ++ rest)))) } ::
          findings)
  | nothing {column : Nat} {first : Char} {front : List Char} {findings : List Finding} :
      Text.isBlank first = false → leadOf first = .mark →
      (∀ symbol : Symbol, [first] ≠ symbol.spelling.toList) →
      FindsBefore rest (column + 1) front findings →
      FindsBefore rest column (first :: front)
        ({ column, found := .fault (.unrecognised (String.ofList [first])) } :: findings)

/-! ### Cutting and joining -/

/-- Cut before one of its findings, a derivation leaves a front and what is found from
there on. -/
theorem Finds.exists_before {column : Nat} {text : List Char} {findings : List Finding}
    (finds : Finds column text findings) {finding : Finding} (member : finding ∈ findings) :
    ∃ front rest earlier later, text = front ++ rest ∧ findings = earlier ++ finding :: later ∧
      finding.column = column + front.length ∧ FindsBefore rest column front earlier ∧
      FoundAt finding.found rest ∧
      Finds (finding.column + finding.width) (rest.drop finding.width) later := by
  induction finds with
  | done column => cases member
  | @blank column c rest findings blank _ ih =>
      obtain ⟨front, rest, earlier, later, rfl, rfl, place, before, foundAt, finds⟩ := ih member
      refine ⟨c :: front, rest, earlier, later, rfl, rfl, ?_, .blank blank before, foundAt, finds⟩
      rw [place, List.length_cons]
      omega
  | comment column text =>
      obtain rfl := List.mem_singleton.mp member
      refine ⟨[], _, [], [], rfl, rfl, rfl, .done column, .comment text, ?_⟩
      rw [Finding.width_of_lexeme rfl, List.drop_length]
      exact .done _
  | @token column kind lexeme rest findings complete finds ih =>
      rcases List.mem_cons.mp member with rfl | inLater
      · refine ⟨[], lexeme ++ rest, [], findings, rfl, rfl, rfl, .done column, .token complete, ?_⟩
        rw [Finding.width_of_lexeme rfl, List.drop_left]
        exact finds
      · obtain ⟨front, rest, earlier, later, rfl, rfl, place, before, foundAt, finds⟩ := ih inLater
        refine ⟨lexeme ++ front, rest, _ :: earlier, later, (List.append_assoc ..).symm, rfl, ?_,
          .token complete before, foundAt, finds⟩
        rw [place, List.length_append]
        omega
  | @openString column body findings unquoted finds ih =>
      rcases List.mem_cons.mp member with rfl | inLater
      · exact ⟨[], _, [], findings, rfl, rfl, rfl, .done column, .openString unquoted, finds⟩
      · obtain ⟨front, rest, earlier, later, rfl, rfl, place, before, foundAt, finds⟩ := ih inLater
        refine ⟨'"' :: front, rest, _ :: earlier, later, rfl, rfl, ?_,
          .openString unquoted before, foundAt, finds⟩
        rw [place, List.length_cons]
        omega
  | @nothing column first rest findings notBlank mark unspelled finds ih =>
      rcases List.mem_cons.mp member with rfl | inLater
      · exact ⟨[], _, [], findings, rfl, rfl, rfl, .done column,
          .nothing notBlank mark unspelled, finds⟩
      · obtain ⟨front, rest, earlier, later, rfl, rfl, place, before, foundAt, finds⟩ := ih inLater
        refine ⟨first :: front, rest, _ :: earlier, later, rfl, rfl, ?_,
          .nothing notBlank mark unspelled before, foundAt, finds⟩
        rw [place, List.length_cons]
        omega

def WithoutOpenString (findings : List Finding) : Prop :=
  ∀ finding ∈ findings, ∀ text, finding.found ≠ .fault (.unterminated text)

theorem WithoutOpenString.later {head : Finding} {findings : List Finding}
    (closed : WithoutOpenString (head :: findings)) : WithoutOpenString findings :=
  fun finding member => closed finding (List.mem_cons_of_mem head member)

namespace FindsBefore

variable {column : Nat} {front rest : List Char} {earlier : List Finding}

theorem append (before : FindsBefore rest column front earlier) {stop : Nat}
    {later : List Finding} (finds : Finds stop rest later) (place : stop = column + front.length) :
    Finds column (front ++ rest) (earlier ++ later) := by
  induction before with
  | done column =>
      rw [List.length_nil, Nat.add_zero] at place
      rwa [place] at finds
  | blank blank _ ih =>
      rw [List.length_cons] at place
      exact .blank blank (ih (by omega))
  | token complete _ ih =>
      rw [List.length_append] at place
      rw [List.append_assoc]
      exact .token complete (ih (by omega))
  | openString unquoted _ ih =>
      rw [List.length_cons] at place
      exact .openString unquoted (ih (by omega))
  | nothing notBlank mark unspelled _ ih =>
      rw [List.length_cons] at place
      exact .nothing notBlank mark unspelled (ih (by omega))

/-- A quote in the rest closes every string of the front. -/
theorem withoutOpenString (before : FindsBefore rest column front earlier)
    (quote : '"' ∈ rest) : WithoutOpenString earlier := by
  induction before with
  | done column => exact fun finding member => absurd member List.not_mem_nil
  | blank _ _ ih => exact ih
  | token _ _ ih =>
      refine List.forall_mem_cons.mpr ⟨?_, ih⟩
      intro text impossible
      cases impossible
  | @openString column front findings unquoted _ ih =>
      exact absurd rfl (unquoted '"' (List.mem_append_right front quote))
  | nothing _ _ _ _ ih =>
      refine List.forall_mem_cons.mpr ⟨?_, ih⟩
      intro text impossible
      cases impossible

/-- A front without open strings stays one before any rest that looks alike. -/
theorem of_lookAlike (before : FindsBefore rest column front earlier)
    (closed : WithoutOpenString earlier) {other : List Char}
    (alike : ∀ more, LookAlike (more ++ rest) (more ++ other)) :
    FindsBefore other column front earlier := by
  induction before with
  | done column => exact .done column
  | blank blank _ ih => exact .blank blank (ih closed)
  | token complete _ ih => exact .token (complete.of_lookAlike (alike _)) (ih closed.later)
  | openString unquoted _ ih => exact absurd rfl (closed _ List.mem_cons_self _)
  | nothing notBlank mark unspelled _ ih =>
      exact .nothing notBlank mark unspelled (ih closed.later)

end FindsBefore

end LoxLexer
