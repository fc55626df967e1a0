/- How the findings of a line come about, step by step.  A line has exactly one derivation, so
what holds of all findings is proved by one case for each rule. -/
import LoxLexer.Finding
import LoxLexer.Proofs.Lexeme.Growth

namespace LoxLexer

open Lexeme (Complete Opens leadOf)

inductive Finds : Nat → List Char → List Finding → Prop
  | done (column : Nat) : Finds column [] []
  | blank {column : Nat} {c : Char} {rest : List Char} {findings : List Finding} :
      Text.isBlank c = true → Finds (column + 1) rest findings →
      Finds column (c :: rest) findings
  | comment (column : Nat) (text : List Char) :
      Finds column ('/' :: '/' :: text) [{ column, found := .comment ('/' :: '/' :: text) }]
  | token {column : Nat} {kind : Kind} {lexeme rest : List Char} {findings : List Finding} :
      Complete kind lexeme rest → Finds (column + lexeme.length) rest findings →
      Finds column (lexeme ++ rest) ({ column, found := .token kind lexeme } :: findings)
  | openString {column : Nat} {body : List Char} {findings : List Finding} :
      (∀ c ∈ body, c ≠ '"') → Finds (column + 1) body findings →
      Finds column ('"' :: body)
        ({ column, found := .fault (.unterminated (String.ofList ('"' :: body))) } :: findings)
  | nothing {column : Nat} {first : Char} {rest : List Char} {findings : List Finding} :
      Text.isBlank first = false → leadOf first = .mark →
      (∀ symbol : Symbol, [first] ≠ symbol.spelling.toList) →
      Finds (column + 1) rest findings →
      Finds column (first :: rest)
        ({ column, found := .fault (.unrecognised (String.ofList [first])) } :: findings)

theorem exists_finds (column : Nat) (text : List Char) :
    ∃ findings, Finds column text findings := by
  -- A token takes several characters at once, so the induction is on the length.
  induction textLength : text.length using Nat.strongRecOn generalizing column text with
  | ind size ih =>
      cases text with
      | nil => exact ⟨[], .done column⟩
      | cons first rest =>
          by_cases blank : Text.isBlank first = true
          · obtain ⟨findings, finds⟩ := ih rest.length (by simp [← textLength])
              (column + 1) rest rfl
            exact ⟨findings, .blank blank finds⟩
          · obtain ⟨opening, opens⟩ := Lexeme.exists_opens first rest
            generalize split : first :: rest = text at opens textLength
            cases opens with
            | comment text => exact ⟨_, .comment column text⟩
            | @token kind lexeme later complete =>
                obtain ⟨_, _, rfl, -⟩ := complete.head_not_blank
                have shorter : later.length < size := by
                  rw [← textLength, List.length_append, List.length_cons]
                  omega
                obtain ⟨findings, finds⟩ := ih later.length shorter (column + _) later rfl
                exact ⟨_, .token complete finds⟩
            | @openString body unquoted =>
                obtain ⟨findings, finds⟩ := ih body.length (by simp [← textLength])
                  (column + 1) body rfl
                exact ⟨_, .openString unquoted finds⟩
            | nothing later mark unspelled =>
                obtain ⟨rfl, rfl⟩ := List.cons.inj split
                obtain ⟨findings, finds⟩ := ih rest.length (by simp [← textLength])
                  (column + 1) rest rfl
                exact ⟨_, .nothing (by simpa using blank) mark unspelled finds⟩

/-! ### Steps along a line -/

theorem findingsFrom_blank {c : Char} (blank : Text.isBlank c = true) (column : Nat)
    (rest : List Char) : findingsFrom column 0 (c :: rest) = findingsFrom (column + 1) 0 rest := by
  rw [findingsFrom, if_pos blank]

theorem findingsFrom_step {first : Char} (notBlank : Text.isBlank first = false)
    (column : Nat) (rest : List Char) :
    findingsFrom column 0 (first :: rest) =
      match Lexeme.opening (first :: rest) with
      | .comment => [{ column, found := .comment (first :: rest) }]
      | .token kind length =>
          { column, found := .token kind ((first :: rest).take length) } ::
            findingsFrom (column + 1) (length - 1) rest
      | .openString =>
          { column, found := .fault (.unterminated (String.ofList (first :: rest))) } ::
            findingsFrom (column + 1) 0 rest
      | .nothing =>
          { column, found := .fault (.unrecognised (String.ofList [first])) } ::
            findingsFrom (column + 1) 0 rest := by
  rw [findingsFrom, notBlank]
  rfl

theorem findingsFrom_token {kind : Kind} {lexeme rest : List Char} (oneLine : '\n' ∉ lexeme)
    (complete : Complete kind lexeme rest) (column : Nat) :
    findingsFrom column 0 (lexeme ++ rest) =
      { column, found := .token kind lexeme } ::
        findingsFrom (column + lexeme.length) 0 rest := by
  have opened := Lexeme.opening_complete oneLine complete
  obtain ⟨first, more, rfl, notBlank⟩ := complete.head_not_blank
  rw [List.cons_append] at opened ⊢
  rw [findingsFrom_step notBlank, opened]
  simp only [List.length_cons, Nat.add_sub_cancel]
  rw [findingsFrom_covered, List.drop_left, ← List.cons_append, ← List.length_cons,
    List.take_left, Nat.add_assoc, Nat.add_comm 1, List.length_cons]

theorem Finds.findingsFrom_eq {column : Nat} {text : List Char} {findings : List Finding}
    (finds : Finds column text findings) (oneLine : '\n' ∉ text) :
    findingsFrom column 0 text = findings := by
  induction finds with
  | done column => rfl
  | blank blank _ ih =>
      rw [findingsFrom_blank blank, ih fun feed => oneLine (List.mem_cons_of_mem _ feed)]
  | comment column text =>
      rw [findingsFrom_step (by decide), Lexeme.opening_comment]
  | token complete _ ih =>
      rw [findingsFrom_token (fun feed => oneLine (List.mem_append_left _ feed)) complete,
        ih fun feed => oneLine (List.mem_append_right _ feed)]
  | openString unquoted _ ih =>
      rw [findingsFrom_step (by decide), Lexeme.opening_openString unquoted]
      simp only
      rw [ih fun feed => oneLine (List.mem_cons_of_mem _ feed)]
  | nothing notBlank mark unspelled _ ih =>
      rw [findingsFrom_step notBlank, Lexeme.opening_nothing _ mark unspelled]
      simp only
      rw [ih fun feed => oneLine (List.mem_cons_of_mem _ feed)]

theorem finds_findingsFrom {text : List Char} (oneLine : '\n' ∉ text) (column : Nat) :
    Finds column text (findingsFrom column 0 text) := by
  obtain ⟨findings, finds⟩ := exists_finds column text
  rw [finds.findingsFrom_eq oneLine]
  exact finds

/-! ### Where a finding stands -/

inductive FoundAt : Found → List Char → Prop
  | comment (text : List Char) : FoundAt (.comment ('/' :: '/' :: text)) ('/' :: '/' :: text)
  | token {kind : Kind} {lexeme rest : List Char} :
      Complete kind lexeme rest → FoundAt (.token kind lexeme) (lexeme ++ rest)
  | openString {body : List Char} :
      (∀ c ∈ body, c ≠ '"') →
      FoundAt (.fault (.unterminated (String.ofList ('"' :: body)))) ('"' :: body)
  | nothing {first : Char} {rest : List Char} :
      Text.isBlank first = false → leadOf first = .mark →
      (∀ symbol : Symbol, [first] ≠ symbol.spelling.toList) →
      FoundAt (.fault (.unrecognised (String.ofList [first]))) (first :: rest)

def Finding.StandsIn (column : Nat) (text : List Char) (finding : Finding) : Prop :=
  ∃ before rest, text = before ++ rest ∧ finding.column = column + before.length ∧
    FoundAt finding.found rest

theorem FoundAt.stands {found : Found} {text : List Char} (foundAt : FoundAt found text)
    (column : Nat) : Finding.StandsIn column text { column, found } :=
  ⟨[], text, rfl, rfl, foundAt⟩

theorem Finding.StandsIn.after {column : Nat} {text : List Char} {finding : Finding}
    (taken : List Char) (stands : finding.StandsIn (column + taken.length) text) :
    finding.StandsIn column (taken ++ text) := by
  obtain ⟨before, rest, rfl, place, foundAt⟩ := stands
  refine ⟨taken ++ before, rest, by rw [List.append_assoc], ?_, foundAt⟩
  rw [place, List.length_append, Nat.add_assoc]

theorem Finds.stands {column : Nat} {text : List Char} {findings : List Finding}
    (finds : Finds column text findings) :
    ∀ finding ∈ findings, finding.StandsIn column text := by
  induction finds with
  | done column => simp
  | @blank column c rest findings blank _ ih =>
      intro finding member
      exact (ih finding member).after [c]
  | comment column text =>
      exact List.forall_mem_singleton.mpr ((FoundAt.comment text).stands column)
  | @token column kind lexeme rest findings complete _ ih =>
      refine List.forall_mem_cons.mpr ⟨(FoundAt.token complete).stands column, ?_⟩
      intro finding member
      exact (ih finding member).after lexeme
  | @openString column body findings unquoted _ ih =>
      refine List.forall_mem_cons.mpr ⟨(FoundAt.openString unquoted).stands column, ?_⟩
      intro finding member
      exact (ih finding member).after ['"']
  | @nothing column first rest findings notBlank mark unspelled _ ih =>
      refine List.forall_mem_cons.mpr
        ⟨(FoundAt.nothing notBlank mark unspelled).stands column, ?_⟩
      intro finding member
      exact (ih finding member).after [first]

/-- A token of a line is whole, and the rest of the line does not prolong it. -/
theorem Finds.complete {column : Nat} {text : List Char} {findings : List Finding}
    (finds : Finds column text findings) :
    ∀ finding ∈ findings, ∀ kind lexeme, finding.found = .token kind lexeme →
      ∃ before rest, text = before ++ lexeme ++ rest ∧
        finding.column = column + before.length ∧ Complete kind lexeme rest := by
  intro finding member kind lexeme found
  obtain ⟨before, text, rfl, place, foundAt⟩ := finds.stands finding member
  rw [found] at foundAt
  cases foundAt with
  | @token _ _ rest complete =>
      exact ⟨before, rest, by rw [List.append_assoc], place, complete⟩

end LoxLexer
