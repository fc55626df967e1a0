/- Lexemes before white space, which prolongs none of them.  A text that is classified as a string
may still go on after its first closing quote. -/
import LoxLexer.Proofs.Lexeme.Opens

namespace LoxLexer.Lexeme

open Text (StartsOutside)

/-! ### Shapes of classified texts -/

theorem isNumber_cases {text : List Char} (number : isNumber text = true) :
    ∃ digits, digits ≠ [] ∧ (∀ c ∈ digits, c.isDigit = true) ∧
      (text = digits ∨
        ∃ places, text = digits ++ '.' :: places ∧ places ≠ [] ∧
          ∀ c ∈ places, c.isDigit = true) := by
  obtain ⟨digits, rest, rfl, areDigits, boundary⟩ := Text.exists_run Char.isDigit text
  rw [isNumber, Text.takeWhile_run areDigits boundary, Text.dropWhile_run areDigits boundary,
    Bool.and_eq_true] at number
  obtain ⟨nonempty, fraction⟩ := number
  refine ⟨digits, by simpa using nonempty, areDigits, ?_⟩
  unfold isFraction at fraction
  split at fraction
  · exact .inl (List.append_nil digits)
  · rename_i places
    rw [Bool.and_eq_true] at fraction
    exact .inr ⟨places, rfl, by simpa using fraction.1, List.all_eq_true.mp fraction.2⟩
  · cases fraction

theorem eq_spelling_of_classOf {first : Char} {more : List Char} {kind : Kind}
    (mark : leadOf first = .mark) (classified : classOf (first :: more) = .token kind) :
    ∃ symbol : Symbol, kind = .symbol symbol ∧ symbol.spelling.toList = first :: more := by
  rw [classOf_mark mark] at classified
  split at classified
  · cases classified
  · split at classified
    · rename_i symbol found
      exact ⟨symbol, (Class.token.inj classified).symm, (eq_spelling_of_symbolIn? found).symm⟩
    · cases classified

/-! ### White space after a lexeme -/

theorem startsOutside_of_spaced {inClass : Char → Bool} {rest : List Char}
    (spaced : ∀ next after, rest = next :: after → Text.isBlank next = true)
    (notBlank : ∀ c, inClass c = true → Text.isBlank c = false) :
    StartsOutside inClass rest := by
  intro next after split
  exact Text.outside_disjoint inClass Text.isBlank notBlank (spaced next after split)

theorem endsSymbol_of_spaced {lexeme rest : List Char}
    (spaced : ∀ next after, rest = next :: after → Text.isBlank next = true) :
    EndsSymbol lexeme rest := by
  intro next after split
  have blank := spaced next after split
  constructor
  · intro same
    have member : next ∈ commentMark.toList := by simp [← same]
    have slash : next = '/' := by simpa [commentMark] using member
    exact Text.ne_of_class blank rfl slash
  · intro symbol same
    have notBlank := spelling_not_blank symbol next (by simp [← same])
    rw [blank] at notBlank
    contradiction

theorem Complete.of_classOf {kind : Kind} {lexeme rest : List Char}
    (classified : classOf lexeme = .token kind) (notString : kind ≠ .string)
    (spaced : ∀ next after, rest = next :: after → Text.isBlank next = true) :
    Complete kind lexeme rest := by
  have afterDigits : StartsOutside Char.isDigit rest :=
    startsOutside_of_spaced spaced fun c digit => isBlank_eq_false_of_isDigit digit
  cases lexeme with
  | nil =>
      rw [classOf_nil] at classified
      cases classified
  | cons first more =>
      rcases lead_cases first with rfl | digit | starts | mark
      · rw [classOf_quote] at classified
        split at classified
        · exact absurd (Class.token.inj classified).symm notString
        · cases classified
      · rw [classOf_digit digit] at classified
        split at classified
        · rename_i number
          obtain rfl := Class.token.inj classified
          obtain ⟨digits, nonempty, areDigits, shape⟩ := isNumber_cases number
          rcases shape with whole | ⟨places, split, placesNonempty, arePlaces⟩
          · have noFraction : ∀ after, rest = '.' :: after → StartsOutside Char.isDigit after := by
              intro after split
              exact absurd (spaced '.' after split) (by decide)
            rw [whole]
            exact .whole nonempty areDigits afterDigits noFraction
          · rw [split]
            exact .fraction nonempty areDigits placesNonempty arePlaces afterDigits
        · cases classified
      · rw [classOf_letter starts] at classified
        split at classified
        · rename_i continued
          obtain rfl := Class.token.inj classified
          have boundary : StartsOutside continuesIdentifier rest :=
            startsOutside_of_spaced spaced fun c => isBlank_eq_false_of_continuesIdentifier
          exact .word starts (List.all_eq_true.mp continued) boundary
        · cases classified
      · obtain ⟨symbol, rfl, spelled⟩ := eq_spelling_of_classOf mark classified
        exact .of_spelling spelled (endsSymbol_of_spaced spaced)

theorem Complete.not_blank {kind : Kind} {lexeme rest : List Char}
    (complete : Complete kind lexeme rest) (notString : kind ≠ .string) :
    ∀ c ∈ lexeme, Text.isBlank c = false := by
  cases complete with
  | string furtherQuotes unquoted boundary => exact absurd rfl notString
  | whole nonempty areDigits boundary noFraction =>
      intro c member
      exact isBlank_eq_false_of_isDigit (areDigits c member)
  | fraction nonempty areDigits placesNonempty arePlaces boundary =>
      intro c member
      rcases List.mem_append.mp member with inDigits | inFraction
      · exact isBlank_eq_false_of_isDigit (areDigits c inDigits)
      · rcases List.mem_cons.mp inFraction with rfl | inPlaces
        · decide
        · exact isBlank_eq_false_of_isDigit (arePlaces c inPlaces)
  | word starts continued boundary =>
      intro c member
      rcases List.mem_cons.mp member with rfl | inLetters
      · exact isBlank_eq_false_of_continuesIdentifier
          (continuesIdentifier_of_startsIdentifier starts)
      · exact isBlank_eq_false_of_continuesIdentifier (continued c inLetters)
  | symbol symbol boundary => exact spelling_not_blank symbol

end LoxLexer.Lexeme
