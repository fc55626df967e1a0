/- The findings of a line and the characters that they take.  Findings and blanks tile the line. -/
import LoxLexer.Proofs.Finding.Derivation

namespace LoxLexer

open Lexeme (Complete)

def Found.lexeme? : Found → Option (List Char)
  | .token _ lexeme => some lexeme
  | .comment text => some text
  | .fault _ => none

def Finding.width (finding : Finding) : Nat :=
  match finding.found.lexeme? with
  | some lexeme => lexeme.length
  | none => 1

theorem Finding.width_of_lexeme {finding : Finding} {lexeme : List Char}
    (read : finding.found.lexeme? = some lexeme) : finding.width = lexeme.length := by
  rw [Finding.width, read]

theorem Finding.width_of_fault {finding : Finding} {fault : Fault}
    (found : finding.found = .fault fault) : finding.width = 1 := by
  rw [Finding.width, found]
  rfl

def Finding.Covers (finding : Finding) (column : Nat) : Prop :=
  finding.column ≤ column ∧ column < finding.column + finding.width

/-- Findings and blanks side by side make up the rest of a line. -/
inductive Tiles : Nat → List Char → List Finding → Prop
  | done (column : Nat) : Tiles column [] []
  | blank {column : Nat} {c : Char} {rest : List Char} {findings : List Finding} :
      Text.isBlank c = true → Tiles (column + 1) rest findings →
      Tiles column (c :: rest) findings
  | finding {finding : Finding} {taken rest : List Char} {findings : List Finding} :
      taken ≠ [] → taken.length = finding.width →
      (∀ lexeme, finding.found.lexeme? = some lexeme → lexeme = taken) →
      Tiles (finding.column + finding.width) rest findings →
      Tiles finding.column (taken ++ rest) (finding :: findings)

theorem Tiles.lexeme {column : Nat} {found : Found} {lexeme rest : List Char}
    {findings : List Finding} (read : found.lexeme? = some lexeme) (nonempty : lexeme ≠ [])
    (tiles : Tiles (column + lexeme.length) rest findings) :
    Tiles column (lexeme ++ rest) ({ column, found } :: findings) := by
  have width : lexeme.length = Finding.width { column, found } :=
    (Finding.width_of_lexeme read).symm
  have same : ∀ other, found.lexeme? = some other → other = lexeme := by
    intro other otherRead
    exact Option.some.inj (otherRead.symm.trans read)
  rw [width] at tiles
  exact .finding nonempty width same tiles

theorem Tiles.fault {column : Nat} {c : Char} {rest : List Char} {findings : List Finding}
    (fault : Fault) (tiles : Tiles (column + 1) rest findings) :
    Tiles column (c :: rest) ({ column, found := .fault fault } :: findings) := by
  have unread : ∀ lexeme, (Found.fault fault).lexeme? = some lexeme → lexeme = [c] := by
    intro lexeme impossible
    cases impossible
  exact @Tiles.finding { column, found := .fault fault } [c] rest findings
    (List.cons_ne_nil c []) rfl unread tiles

theorem Finds.tiles {column : Nat} {text : List Char} {findings : List Finding}
    (finds : Finds column text findings) : Tiles column text findings := by
  induction finds with
  | done column => exact .done column
  | blank blank _ ih => exact .blank blank ih
  | comment column text =>
      have read : (Found.comment ('/' :: '/' :: text)).lexeme? = some ('/' :: '/' :: text) := rfl
      have whole := Tiles.lexeme read (List.cons_ne_nil '/' ('/' :: text)) (.done (column + _))
      rwa [List.append_nil] at whole
  | token complete _ ih =>
      obtain ⟨first, more, rfl, -⟩ := complete.head_not_blank
      exact .lexeme rfl (List.cons_ne_nil first more) ih
  | openString unquoted _ ih => exact .fault _ ih
  | nothing notBlank mark unspelled _ ih => exact .fault _ ih

namespace Tiles

variable {column : Nat} {text : List Char} {findings : List Finding}

theorem bounds (tiles : Tiles column text findings) :
    ∀ finding ∈ findings, column ≤ finding.column ∧ 0 < finding.width ∧
      finding.column + finding.width ≤ column + text.length := by
  induction tiles with
  | done column => simp
  | blank blank _ ih =>
      intro finding member
      have inside := ih finding member
      rw [List.length_cons]
      omega
  | @finding head taken rest findings nonempty width read _ ih =>
      have positive := List.length_pos_iff.mpr nonempty
      intro finding member
      rw [List.length_append]
      rcases List.mem_cons.mp member with rfl | later
      · omega
      · have inside := ih finding later
        omega

theorem ordered (tiles : Tiles column text findings) :
    findings.Pairwise fun first second => first.column + first.width ≤ second.column := by
  induction tiles with
  | done column => exact .nil
  | blank blank _ ih => exact ih
  | finding nonempty width read later ih =>
      exact List.pairwise_cons.mpr ⟨fun finding member => (later.bounds finding member).1, ih⟩

theorem unique (tiles : Tiles column text findings) {first second : Finding}
    (firstMember : first ∈ findings) (secondMember : second ∈ findings) {index : Nat}
    (firstCovers : first.Covers index) (secondCovers : second.Covers index) :
    first = second := by
  unfold Finding.Covers at firstCovers secondCovers
  have ordered := tiles.ordered
  clear tiles
  induction ordered with
  | nil => cases firstMember
  | cons apart _ ih =>
      rcases List.mem_cons.mp firstMember with rfl | firstLater
      · rcases List.mem_cons.mp secondMember with rfl | secondLater
        · rfl
        · have gap := apart second secondLater
          omega
      · rcases List.mem_cons.mp secondMember with rfl | secondLater
        · have gap := apart first firstLater
          omega
        · exact ih firstLater secondLater

theorem covers (tiles : Tiles column text findings) {index : Nat} {c : Char}
    (found : text[index]? = some c) :
    (∃ finding ∈ findings, finding.Covers (column + index)) ∨ Text.isBlank c = true := by
  induction tiles generalizing index with
  | done column => simp at found
  | blank blank _ ih =>
      cases index with
      | zero =>
          right
          simpa [← Option.some.inj found] using blank
      | succ index =>
          have later := ih (by simpa using found)
          rwa [Nat.add_assoc, Nat.add_comm 1] at later
  | @finding head taken rest findings nonempty width read _ ih =>
      by_cases inside : index < taken.length
      · exact .inl ⟨head, List.mem_cons_self, by unfold Finding.Covers; omega⟩
      · rw [List.getElem?_append_right (Nat.not_lt.mp inside)] at found
        have moved : head.column + head.width + (index - taken.length) = head.column + index := by
          omega
        rcases ih found with ⟨finding, member, covered⟩ | blank
        · rw [moved] at covered
          exact .inl ⟨finding, List.mem_cons_of_mem head member, covered⟩
        · exact .inr blank

theorem reads (tiles : Tiles column text findings) :
    ∀ finding ∈ findings, ∀ lexeme, finding.found.lexeme? = some lexeme →
      lexeme ≠ [] ∧
        ∃ before after, text = before ++ lexeme ++ after ∧
          finding.column = column + before.length := by
  induction tiles with
  | done column => simp
  | @blank column c rest findings blank _ ih =>
      intro finding member lexeme read
      obtain ⟨nonempty, before, after, split, place⟩ := ih finding member lexeme read
      refine ⟨nonempty, c :: before, after, by rw [split]; rfl, ?_⟩
      rw [List.length_cons]
      omega
  | @finding head taken rest findings nonempty width headRead _ ih =>
      intro finding member lexeme read
      rcases List.mem_cons.mp member with rfl | later
      · rw [headRead lexeme read]
        exact ⟨nonempty, [], rest, rfl, rfl⟩
      · obtain ⟨lexemeNonempty, before, after, split, place⟩ := ih finding later lexeme read
        refine ⟨lexemeNonempty, taken ++ before, after, by rw [split]; simp, ?_⟩
        rw [List.length_append]
        omega

end Tiles

end LoxLexer
