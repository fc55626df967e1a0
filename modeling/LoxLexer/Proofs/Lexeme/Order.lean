/- The order of the matchers.  No text but a keyword is accepted by two of them, so the order
decides about keywords only. -/
import Mathlib.Data.List.Permutation
import LoxLexer.Proofs.Lexeme.Kinds

namespace LoxLexer.Lexeme

/-! ### Matchers that apply -/

def Matcher.applies (text : List Char) (matcher : Matcher) : Bool :=
  (matcher.class? text).isSome

def applicable (matchers : List Matcher) (text : List Char) : List Matcher :=
  matchers.filter (Matcher.applies text)

theorem classBy_applicable (matchers : List Matcher) (text : List Char) :
    classBy (applicable matchers text) text = classBy matchers text := by
  refine classBy_filter _ (fun matcher idle => ?_) matchers
  exact Option.isNone_iff_eq_none.mp (Option.isSome_eq_false_iff.mp idle)

theorem Matcher.applies_nil (matcher : Matcher) : matcher.applies [] = false := by
  cases matcher <;> decide

theorem Matcher.lead_of_applies {matcher : Matcher} {first : Char} {rest : List Char}
    (applies : matcher.applies (first :: rest) = true) : matcher.lead = leadOf first := by
  obtain ⟨decided, given⟩ := Option.isSome_iff_exists.mp applies
  exact Matcher.lead_of_class? given

theorem exists_spelling_of_applies {text : List Char}
    (applies : Matcher.keyword.applies text = true) :
    ∃ word : Keyword, text = word.spelling.toList := by
  rw [Matcher.applies, Matcher.class?, Option.isSome_map] at applies
  obtain ⟨word, found⟩ := Option.isSome_iff_exists.mp applies
  exact ⟨word, eq_spelling_of_keyword? found⟩

/-! ### Marks -/

theorem spelling_ne_commentMark (symbol : Symbol) :
    symbol.spelling.toList ≠ commentMark.toList := by
  cases symbol <;> decide

theorem symbolIn?_plain_of_extensible {symbol : Symbol} (member : symbol ∈ Symbol.extensible) :
    symbolIn? Symbol.plain symbol.spelling.toList = none := by
  revert member
  cases symbol <;> decide

def markMatcher (text : List Char) : Matcher :=
  if text = commentMark.toList then .commentMark
  else if (symbolIn? Symbol.plain text).isSome then .plainSymbol
  else .extensibleSymbol

theorem markMatcher_eq {matcher : Matcher} {text : List Char}
    (applies : matcher.applies text = true) (mark : matcher.lead = .mark) :
    markMatcher text = matcher := by
  obtain ⟨decided, given⟩ := Option.isSome_iff_exists.mp applies
  cases matcher with
  | commentMark =>
      obtain ⟨comment, -⟩ := Option.ite_none_right_eq_some.mp given
      rw [markMatcher, if_pos comment]
  | plainSymbol =>
      obtain ⟨symbol, found, -⟩ := Option.map_eq_some_iff.mp given
      have notComment : text ≠ commentMark.toList := by
        rw [eq_spelling_of_symbolIn? found]
        exact spelling_ne_commentMark symbol
      rw [markMatcher, if_neg notComment, found]
      rfl
  | extensibleSymbol =>
      obtain ⟨symbol, found, -⟩ := Option.map_eq_some_iff.mp given
      have spelled := eq_spelling_of_symbolIn? found
      have notComment : text ≠ commentMark.toList := by
        rw [spelled]
        exact spelling_ne_commentMark symbol
      have notPlain : symbolIn? Symbol.plain text = none := by
        rw [spelled]
        exact symbolIn?_plain_of_extensible (List.mem_of_find?_eq_some found)
      rw [markMatcher, if_neg notComment, notPlain]
      rfl
  | _ => cases mark

/-! ### Texts that are no keywords -/

/-- The matcher that is left for a text which is no keyword. -/
def matcherLeft? : List Char → Option Matcher
  | [] => none
  | first :: rest =>
      match leadOf first with
      | .quote => some .string
      | .digit => some .number
      | .letter => some .identifier
      | .mark => some (markMatcher (first :: rest))

theorem matcherLeft?_eq {matcher : Matcher} {text : List Char}
    (applies : matcher.applies text = true)
    (noKeyword : ∀ word : Keyword, text ≠ word.spelling.toList) :
    matcherLeft? text = some matcher := by
  cases text with
  | nil =>
      rw [Matcher.applies_nil] at applies
      cases applies
  | cons first rest =>
      -- The matcher has the lead of the text, so its own lead selects the case.
      have lead := Matcher.lead_of_applies applies
      rw [matcherLeft?, ← lead]
      cases matcher with
      | number => rfl
      | string => rfl
      | identifier => rfl
      | keyword =>
          obtain ⟨word, spelled⟩ := exists_spelling_of_applies applies
          exact absurd spelled (noKeyword word)
      | commentMark => exact congrArg some (markMatcher_eq applies rfl)
      | plainSymbol => exact congrArg some (markMatcher_eq applies rfl)
      | extensibleSymbol => exact congrArg some (markMatcher_eq applies rfl)

section

variable {matchers : List Matcher} {text : List Char}

theorem applicable_nodup (reordered : matchers.Perm Matcher.order) (text : List Char) :
    (applicable matchers text).Nodup := by
  have once : Matcher.order.Nodup := by decide
  exact (reordered.nodup_iff.mpr once).filter _

theorem applicable_subset (matchers : List Matcher)
    (noKeyword : ∀ word : Keyword, text ≠ word.spelling.toList) :
    applicable matchers text ⊆ (matcherLeft? text).toList := by
  intro matcher member
  have applies := (List.mem_filter.mp member).2
  exact Option.mem_toList.mpr (matcherLeft?_eq applies noKeyword)

theorem applicable_length_le (reordered : matchers.Perm Matcher.order)
    (noKeyword : ∀ word : Keyword, text ≠ word.spelling.toList) :
    (applicable matchers text).length ≤ 1 := by
  have distinct := applicable_nodup reordered text
  calc (applicable matchers text).length
    _ ≤ (matcherLeft? text).toList.length :=
        (List.subperm_of_subset distinct (applicable_subset matchers noKeyword)).length_le
    _ ≤ 1 := Option.length_toList_le

/-- One matcher at most has one order only. -/
theorem applicable_of_noKeyword (reordered : matchers.Perm Matcher.order)
    (noKeyword : ∀ word : Keyword, text ≠ word.spelling.toList) :
    applicable matchers text = applicable Matcher.order text := by
  have same : (applicable matchers text).Perm (applicable Matcher.order text) :=
    reordered.filter _
  have short := applicable_length_le (List.Perm.refl Matcher.order) noKeyword
  cases usual : applicable Matcher.order text with
  | nil =>
      rw [usual] at same
      exact same.eq_nil
  | cons matcher others =>
      rw [usual, List.length_cons] at short
      have alone : others = [] := List.length_eq_zero_iff.mp (by omega)
      rw [usual, alone] at same
      rw [alone]
      exact List.perm_singleton.mp same

/-! ### Keywords -/

theorem applicable_order (word : Keyword) :
    applicable Matcher.order word.spelling.toList = [.keyword, .identifier] := by
  cases word <;> decide

theorem applicable_pair (word : Keyword) :
    applicable [.keyword, .identifier] word.spelling.toList = [.keyword, .identifier] := by
  rw [← applicable_order word]
  simp only [applicable, List.filter_filter, Bool.and_self]

theorem applicable_keyword (reordered : matchers.Perm Matcher.order) (word : Keyword) :
    (applicable matchers word.spelling.toList).Perm [.keyword, .identifier] := by
  rw [← applicable_order word]
  exact reordered.filter _

def KeywordsFirst (matchers : List Matcher) : Prop :=
  [Matcher.keyword, .identifier].Sublist matchers

theorem keywordsFirst_iff (reordered : matchers.Perm Matcher.order) (word : Keyword) :
    KeywordsFirst matchers ↔
      applicable matchers word.spelling.toList = [.keyword, .identifier] := by
  constructor
  · intro keywordsFirst
    have inside : (applicable [.keyword, .identifier] word.spelling.toList).Sublist
        (applicable matchers word.spelling.toList) := keywordsFirst.filter _
    rw [applicable_pair] at inside
    exact (inside.eq_of_length (applicable_keyword reordered word).length_eq.symm).symm
  · intro found
    rw [KeywordsFirst, ← found]
    exact List.filter_sublist

/-! ### Reordered matchers -/

theorem classBy_of_keywordsFirst (reordered : matchers.Perm Matcher.order)
    (keywordsFirst : KeywordsFirst matchers) (text : List Char) :
    classBy matchers text = classOf text := by
  have same : applicable matchers text = applicable Matcher.order text := by
    by_cases keyword : ∃ word : Keyword, text = word.spelling.toList
    · obtain ⟨word, rfl⟩ := keyword
      rw [applicable_order, (keywordsFirst_iff reordered word).mp keywordsFirst]
    · exact applicable_of_noKeyword reordered (not_exists.mp keyword)
  calc classBy matchers text
    _ = classBy (applicable matchers text) text := (classBy_applicable matchers text).symm
    _ = classBy (applicable Matcher.order text) text := by rw [same]
    _ = classOf text := classBy_applicable Matcher.order text

theorem classBy_of_not_keywordsFirst (reordered : matchers.Perm Matcher.order)
    (late : ¬ KeywordsFirst matchers) (word : Keyword) :
    classBy matchers word.spelling.toList = .token .identifier := by
  have swapped : applicable matchers word.spelling.toList = [.identifier, .keyword] := by
    rcases List.perm_pair.mp (applicable_keyword reordered word) with usual | swapped
    · exact absurd ((keywordsFirst_iff reordered word).mpr usual) late
    · exact swapped
  rw [← classBy_applicable, swapped]
  cases word <;> decide

/-- Which matchers of a list apply to the same text, and what their order decides. -/
structure OrderEffect (matchers : List Matcher) : Prop where
  alone : ∀ text : List Char, (∀ word : Keyword, text ≠ word.spelling.toList) →
    (applicable matchers text).length ≤ 1
  both : ∀ word : Keyword,
    (applicable matchers word.spelling.toList).Perm [.keyword, .identifier]
  agrees : KeywordsFirst matchers → ∀ text, classBy matchers text = classOf text
  misreads : ¬ KeywordsFirst matchers → ∀ word : Keyword,
    classOf word.spelling.toList = .token (.keyword word) ∧
      classBy matchers word.spelling.toList = .token .identifier

/-- Only the matchers of keywords and of identifiers have to keep their order. -/
theorem classBy_reordered (reordered : matchers.Perm Matcher.order) : OrderEffect matchers := by
  constructor
  case alone =>
    intro text noKeyword
    exact applicable_length_le reordered noKeyword
  case both => exact applicable_keyword reordered
  case agrees => exact classBy_of_keywordsFirst reordered
  case misreads =>
    intro late word
    exact ⟨classOf_keyword word, classBy_of_not_keywordsFirst reordered late word⟩

end

theorem classBy_reordered_reversed :
    let reversed := Matcher.order.reverse
    let mended : List Matcher :=
      [.extensibleSymbol, .plainSymbol, .keyword, .identifier, .string, .number, .commentMark]
    reversed.Perm Matcher.order ∧ OrderEffect reversed ∧ ¬ KeywordsFirst reversed ∧
      classBy reversed "while".toList = .token .identifier ∧
      mended.Perm Matcher.order ∧ OrderEffect mended ∧ KeywordsFirst mended ∧
      classBy mended "while".toList = .token (.keyword .while) ∧
      (∀ word : Keyword, "//".toList ≠ word.spelling.toList) ∧
      (applicable mended "//".toList).length ≤ 1 := by
  intro reversed mended
  have reversedPerm : reversed.Perm Matcher.order := List.reverse_perm Matcher.order
  have mendedPerm : mended.Perm Matcher.order := by decide
  have late : ¬ KeywordsFirst reversed := by
    unfold KeywordsFirst
    decide
  have keywordsFirst : KeywordsFirst mended := by
    unfold KeywordsFirst
    decide
  have noKeyword : ∀ word : Keyword, "//".toList ≠ word.spelling.toList := by
    intro word
    cases word <;> decide
  have reversedEffect := classBy_reordered reversedPerm
  have mendedEffect := classBy_reordered mendedPerm
  have whileKept : classBy mended "while".toList = .token (.keyword .while) :=
    (mendedEffect.agrees keywordsFirst "while".toList).trans (classOf_keyword .while)
  exact ⟨reversedPerm, reversedEffect, late, (reversedEffect.misreads late .while).2,
    mendedPerm, mendedEffect, keywordsFirst, whileKept, noKeyword,
    mendedEffect.alone "//".toList noKeyword⟩

end LoxLexer.Lexeme
