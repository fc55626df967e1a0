/- Where the quotes of a line go.  No quote follows an open string, and every quote before it is
part of a string: a comment would have taken the open string too. -/
import LoxLexer.Proofs.Finding.Coverage
import LoxLexer.Proofs.Lexeme.Strings

namespace LoxLexer

open Lexeme (Complete leadOf)

section

variable {column : Nat} {text : List Char} {findings : List Finding}

/-- What a quote of a line is part of. -/
theorem Finds.quote_cases (finds : Finds column text findings) {index : Nat}
    (quote : text[index]? = some '"') :
    ∃ finding ∈ findings, finding.Covers (column + index) ∧
      ((∃ lexeme, finding.found = .token .string lexeme) ∨
        (∃ comment, finding.found = .comment comment) ∨
          ∃ rest, finding.found = .fault (.unterminated rest)) := by
  rcases finds.tiles.covers quote with ⟨finding, member, covers⟩ | blank
  · refine ⟨finding, member, covers, ?_⟩
    obtain ⟨before, rest, rfl, place, foundAt⟩ := finds.stands finding member
    obtain ⟨atLeast, below⟩ := covers
    rw [List.getElem?_append_right (by omega)] at quote
    generalize found : finding.found = what at foundAt
    cases foundAt with
    | comment comment => exact .inr (.inl ⟨_, rfl⟩)
    | @token kind lexeme later complete =>
        have width : finding.width = lexeme.length :=
          Finding.width_of_lexeme (congrArg Found.lexeme? found)
        rw [List.getElem?_append_left (by omega)] at quote
        rw [complete.eq_string_of_quote (List.mem_of_getElem? quote)]
        exact .inl ⟨lexeme, rfl⟩
    | openString unquoted => exact .inr (.inr ⟨_, rfl⟩)
    | @nothing first later notBlank mark unspelled =>
        have width := Finding.width_of_fault found
        have here : index - before.length = 0 := by omega
        rw [here] at quote
        obtain rfl := Option.some.inj quote
        exact absurd mark (by decide)
  · exact absurd blank (by decide)

end

/-! ### Open strings -/

section

variable {text : List Char} {findings : List Finding}

theorem Finds.openString_text (finds : Finds 0 text findings) {finding : Finding}
    (member : finding ∈ findings) {rest : String}
    (found : finding.found = .fault (.unterminated rest)) :
    ∃ body, text.drop finding.column = '"' :: body ∧ (∀ c ∈ body, c ≠ '"') ∧
      rest = String.ofList ('"' :: body) := by
  obtain ⟨before, later, rfl, place, foundAt⟩ := finds.stands finding member
  rw [found] at foundAt
  cases foundAt with
  | @openString body unquoted =>
      refine ⟨body, ?_, unquoted, rfl⟩
      rw [place, Nat.zero_add, List.drop_left]

theorem Finds.quote_of_openString (finds : Finds 0 text findings) {finding : Finding}
    (member : finding ∈ findings) {rest : String}
    (found : finding.found = .fault (.unterminated rest)) :
    text[finding.column]? = some '"' := by
  obtain ⟨body, split, -, -⟩ := finds.openString_text member found
  have first : (text.drop finding.column)[0]? = some '"' := by rw [split]; rfl
  rwa [List.getElem?_drop, Nat.add_zero] at first

theorem Finds.no_quote_after (finds : Finds 0 text findings) {finding : Finding}
    (member : finding ∈ findings) {rest : String}
    (found : finding.found = .fault (.unterminated rest)) {column : Nat}
    (quote : text[column]? = some '"') : column ≤ finding.column := by
  obtain ⟨body, split, unquoted, -⟩ := finds.openString_text member found
  rcases Nat.lt_or_ge finding.column column with after | notAfter
  · obtain ⟨distance, rfl⟩ := Nat.exists_eq_add_of_lt after
    have inBody : body[distance]? = some '"' := by
      have later : (text.drop finding.column)[distance + 1]? = some '"' := by
        rwa [List.getElem?_drop]
      rwa [split, List.getElem?_cons_succ] at later
    exact absurd rfl (unquoted '"' (List.mem_of_getElem? inBody))
  · exact notAfter

theorem Finds.comment_covers (finds : Finds 0 text findings) {finding : Finding}
    (member : finding ∈ findings) {comment : List Char} (found : finding.found = .comment comment)
    {column : Nat} (after : finding.column ≤ column) (inLine : column < text.length) :
    finding.Covers column := by
  obtain ⟨before, rest, rfl, place, foundAt⟩ := finds.stands finding member
  rw [found] at foundAt
  cases foundAt with
  | comment text =>
      have width : finding.width = ('/' :: '/' :: text).length :=
        Finding.width_of_lexeme (congrArg Found.lexeme? found)
      rw [List.length_append] at inLine
      exact ⟨after, by omega⟩

/-- Every quote before an open string is part of a string. -/
theorem Finds.string_before (finds : Finds 0 text findings) {finding : Finding}
    (member : finding ∈ findings) {rest : String}
    (found : finding.found = .fault (.unterminated rest)) {column : Nat}
    (before : column < finding.column) (quote : text[column]? = some '"') :
    ∃ string ∈ findings, string.Covers column ∧
      ∃ lexeme, string.found = .token .string lexeme := by
  have openQuote := finds.quote_of_openString member found
  obtain ⟨other, otherMember, covers, cases⟩ := finds.quote_cases quote
  rw [Nat.zero_add] at covers
  have starts := covers.1
  rcases cases with isString | ⟨comment, isComment⟩ | ⟨rest, isOpen⟩
  · exact ⟨other, otherMember, covers, isString⟩
  -- A comment that starts before the open string takes its quote too.
  · have inLine := (List.getElem?_eq_some_iff.mp openQuote).1
    have otherCovers := finds.comment_covers otherMember isComment (by omega) inLine
    have width := Finding.width_of_fault found
    have same := finds.tiles.unique otherMember member otherCovers
      ⟨Nat.le_refl finding.column, by omega⟩
    rw [same, found] at isComment
    cases isComment
  · have width := Finding.width_of_fault isOpen
    have last := finds.no_quote_after otherMember isOpen openQuote
    have ends := covers.2
    omega

theorem Finds.string_not_after (finds : Finds 0 text findings) {finding string : Finding}
    (member : finding ∈ findings) {rest : String}
    (found : finding.found = .fault (.unterminated rest)) (stringMember : string ∈ findings)
    {lexeme : List Char} (isString : string.found = .token .string lexeme) :
    string.column ≤ finding.column := by
  obtain ⟨before, rest, rfl, place, complete⟩ :=
    finds.complete string stringMember .string lexeme isString
  obtain ⟨body, furtherQuotes, -, rfl, -⟩ := complete.string_shape rfl
  apply finds.no_quote_after member found
  rw [place, Nat.zero_add, List.append_assoc, List.getElem?_append_right (Nat.le_refl _),
    Nat.sub_self]
  rfl

theorem Finds.openString_unique (finds : Finds 0 text findings) {first second : Finding}
    (firstMember : first ∈ findings) (secondMember : second ∈ findings)
    {firstText secondText : String} (firstFound : first.found = .fault (.unterminated firstText))
    (secondFound : second.found = .fault (.unterminated secondText)) : first = second := by
  have firstLast := finds.no_quote_after firstMember firstFound
    (finds.quote_of_openString secondMember secondFound)
  have secondLast := finds.no_quote_after secondMember secondFound
    (finds.quote_of_openString firstMember firstFound)
  have firstWidth := Finding.width_of_fault firstFound
  have secondWidth := Finding.width_of_fault secondFound
  have firstCovers : first.Covers first.column := ⟨Nat.le_refl _, by omega⟩
  have secondCovers : second.Covers first.column := ⟨firstLast, by omega⟩
  exact finds.tiles.unique firstMember secondMember firstCovers secondCovers

end

end LoxLexer
