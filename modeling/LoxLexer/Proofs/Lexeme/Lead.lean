/- The first character of a candidate and the matchers that may apply to it.  The equations of the
last section name the class of a candidate without the order of all seven. -/
import LoxLexer.Lexeme.OnePass
import LoxLexer.Proofs.Text.Run
import LoxLexer.Text.Blank

namespace LoxLexer

/-! ### Spellings -/

/-- A symbol has one character, or two of which the second is an equals sign and
the first is a symbol by itself. -/
theorem Symbol.spelling_cases (symbol : Symbol) :
    ∃ first, symbol.spelling.toList = [first] ∨
      symbol.spelling.toList = [first, '='] ∧ symbol ∈ Symbol.extensible ∧
        ∃ short : Symbol, short.spelling.toList = [first] := by
  cases symbol with
  | bangEqual => exact ⟨'!', .inr ⟨by decide, by decide, .bang, by decide⟩⟩
  | equalEqual => exact ⟨'=', .inr ⟨by decide, by decide, .equal, by decide⟩⟩
  | greaterEqual => exact ⟨'>', .inr ⟨by decide, by decide, .greater, by decide⟩⟩
  | lessEqual => exact ⟨'<', .inr ⟨by decide, by decide, .less, by decide⟩⟩
  | _ => exact ⟨_, .inl rfl⟩

theorem Symbol.exists_spelling (symbol : Symbol) :
    ∃ first more, symbol.spelling.toList = first :: more := by
  obtain ⟨first, alone | ⟨pair, -⟩⟩ := symbol.spelling_cases
  · exact ⟨first, [], alone⟩
  · exact ⟨first, ['='], pair⟩

theorem Symbol.exists_single {symbol : Symbol} {first : Char} {more : List Char}
    (spelled : symbol.spelling.toList = first :: more) :
    ∃ short : Symbol, short.spelling.toList = [first] := by
  obtain ⟨start, alone | ⟨pair, -, short, shortSpelled⟩⟩ := symbol.spelling_cases
  · rw [alone] at spelled
    rw [← (List.cons.inj spelled).1]
    exact ⟨symbol, alone⟩
  · rw [pair] at spelled
    rw [← (List.cons.inj spelled).1]
    exact ⟨short, shortSpelled⟩

namespace Lexeme

/-! ### Classes of characters -/

theorem isDigit_iff {c : Char} : c.isDigit = true ↔ 48 ≤ c.toNat ∧ c.toNat ≤ 57 :=
  Char.isDigit_iff_toNat

theorem isUpper_iff {c : Char} : c.isUpper = true ↔ 65 ≤ c.toNat ∧ c.toNat ≤ 90 :=
  decide_eq_true_iff

theorem isLower_iff {c : Char} : c.isLower = true ↔ 97 ≤ c.toNat ∧ c.toNat ≤ 122 := by
  have unfolded : c.isLower = (decide (97 ≤ c.toNat) && decide (c.toNat ≤ 122)) := rfl
  rw [unfolded, Bool.and_eq_true, decide_eq_true_eq, decide_eq_true_eq]

theorem eq_underscore_iff {c : Char} : c = '_' ↔ c.toNat = 95 :=
  Char.toNat_inj.symm

theorem startsIdentifier_iff {c : Char} :
    startsIdentifier c = true ↔ (97 ≤ c.toNat ∧ c.toNat ≤ 122) ∨ c.toNat = 95 := by
  rw [startsIdentifier, Bool.or_eq_true, isLower_iff, decide_eq_true_eq, eq_underscore_iff]

theorem continuesIdentifier_iff {c : Char} :
    continuesIdentifier c = true ↔
      (65 ≤ c.toNat ∧ c.toNat ≤ 90) ∨ (97 ≤ c.toNat ∧ c.toNat ≤ 122) ∨
        (48 ≤ c.toNat ∧ c.toNat ≤ 57) ∨ c.toNat = 95 := by
  have letter : c.isAlpha = (c.isUpper || c.isLower) := rfl
  have alphanum : c.isAlphanum = (c.isAlpha || c.isDigit) := rfl
  rw [continuesIdentifier, alphanum, letter, Bool.or_eq_true, Bool.or_eq_true, Bool.or_eq_true,
    isUpper_iff, isLower_iff, isDigit_iff, decide_eq_true_eq, eq_underscore_iff, or_assoc,
    or_assoc]

theorem continuesIdentifier_of_isDigit {c : Char} (digit : c.isDigit = true) :
    continuesIdentifier c = true := by
  rw [isDigit_iff] at digit
  rw [continuesIdentifier_iff]
  omega

theorem continuesIdentifier_of_startsIdentifier {c : Char}
    (starts : startsIdentifier c = true) : continuesIdentifier c = true := by
  rw [startsIdentifier_iff] at starts
  rw [continuesIdentifier_iff]
  omega

theorem isDigit_eq_false_of_startsIdentifier {c : Char}
    (starts : startsIdentifier c = true) : c.isDigit = false := by
  rw [startsIdentifier_iff] at starts
  rw [Bool.eq_false_iff, Ne, isDigit_iff]
  omega

theorem continuesIdentifier_eq_false_of_isBlank {c : Char}
    (blank : Text.isBlank c = true) : continuesIdentifier c = false := by
  simp only [Text.isBlank, Text.blankRanges, List.any_cons, List.any_nil, Bool.or_false,
    Bool.or_eq_true, Bool.and_eq_true, decide_eq_true_eq] at blank
  rw [Bool.eq_false_iff, Ne, continuesIdentifier_iff]
  omega

/-! ### Spelled texts -/

theorem eq_spelling_of_keyword? {text : List Char} {word : Keyword}
    (found : keyword? text = some word) : text = word.spelling.toList := by
  have spelled := List.find?_some found
  exact (decide_eq_true_eq.mp spelled).symm

theorem isIdentifier_of_keyword? {text : List Char} {word : Keyword}
    (found : keyword? text = some word) : isIdentifier text = true := by
  rw [eq_spelling_of_keyword? found]
  cases word <;> decide

theorem eq_spelling_of_symbolIn? {symbols : List Symbol} {text : List Char}
    {symbol : Symbol} (found : symbolIn? symbols text = some symbol) :
    text = symbol.spelling.toList := by
  have spelled := List.find?_some found
  exact (decide_eq_true_eq.mp spelled).symm

theorem symbolIn?_all (text : List Char) :
    symbolIn? Symbol.all text =
      (symbolIn? Symbol.plain text).or (symbolIn? Symbol.extensible text) :=
  List.find?_append

theorem symbolIn?_spelling (symbol : Symbol) :
    symbolIn? Symbol.all symbol.spelling.toList = some symbol := by
  cases symbol <;> decide

theorem symbolIn?_extensible {symbol : Symbol} (member : symbol ∈ Symbol.extensible) :
    symbolIn? Symbol.extensible symbol.spelling.toList = some symbol := by
  revert member
  cases symbol <;> decide

/-! ### Leads -/

/-- What the first character of a text tells about its lexeme. -/
inductive Lead
  | quote
  | digit
  | letter
  | mark
  deriving DecidableEq

def leadOf (first : Char) : Lead :=
  if first = '"' then .quote
  else if first.isDigit then .digit
  else if startsIdentifier first then .letter
  else .mark

def Matcher.lead : Matcher → Lead
  | .commentMark => .mark
  | .number => .digit
  | .string => .quote
  | .keyword => .letter
  | .identifier => .letter
  | .plainSymbol => .mark
  | .extensibleSymbol => .mark

theorem leadOf_of_isDigit {first : Char} (digit : first.isDigit = true) :
    leadOf first = .digit := by
  have notQuote : first ≠ '"' := Text.ne_of_class digit rfl
  simp only [leadOf, if_neg notQuote, if_pos digit]

theorem leadOf_of_startsIdentifier {first : Char}
    (starts : startsIdentifier first = true) : leadOf first = .letter := by
  have notQuote : first ≠ '"' := Text.ne_of_class starts rfl
  have notDigit := isDigit_eq_false_of_startsIdentifier starts
  simp only [leadOf, if_neg notQuote, notDigit, starts, Bool.false_eq_true, if_false,
    if_true]

theorem leadOf_eq_mark {first : Char} :
    leadOf first = .mark ↔
      first ≠ '"' ∧ first.isDigit = false ∧ startsIdentifier first = false := by
  unfold leadOf
  split
  · simp_all
  · split
    · simp_all
    · split <;> simp_all

theorem lead_cases (first : Char) :
    first = '"' ∨ first.isDigit = true ∨ startsIdentifier first = true ∨ leadOf first = .mark := by
  by_cases quote : first = '"'
  · exact .inl quote
  · by_cases digit : first.isDigit = true
    · exact .inr (.inl digit)
    · by_cases starts : startsIdentifier first = true
      · exact .inr (.inr (.inl starts))
      · rw [Bool.not_eq_true] at digit starts
        exact .inr (.inr (.inr (leadOf_eq_mark.mpr ⟨quote, digit, starts⟩)))

theorem leadOf_of_symbol {symbol : Symbol} {first : Char} {rest : List Char}
    (spelled : symbol.spelling.toList = first :: rest) : leadOf first = .mark := by
  cases symbol <;> cases spelled <;> decide

theorem isIdentifier_cons {first : Char} {rest : List Char} :
    isIdentifier (first :: rest) = true ↔
      startsIdentifier first = true ∧ rest.all continuesIdentifier = true := by
  rw [isIdentifier, Bool.and_eq_true]

theorem isNumber_head {first : Char} {rest : List Char}
    (number : isNumber (first :: rest) = true) : first.isDigit = true := by
  cases digit : first.isDigit with
  | true => rfl
  | false => simp [isNumber, digit] at number

theorem isString_head {first : Char} {rest : List Char}
    (string : isString (first :: rest) = true) : first = '"' := by
  by_cases quote : first = '"'
  · exact quote
  · simp [isString, quote] at string

theorem Matcher.lead_of_class? {matcher : Matcher} {first : Char} {rest : List Char}
    {found : Class} (applies : matcher.class? (first :: rest) = some found) :
    matcher.lead = leadOf first := by
  cases matcher with
  | commentMark =>
      simp only [Matcher.class?, Option.ite_none_right_eq_some] at applies
      have firstEq : first = '/' := (List.cons.inj applies.1).1
      rw [firstEq]
      decide
  | number =>
      simp only [Matcher.class?, Option.ite_none_right_eq_some] at applies
      exact (leadOf_of_isDigit (isNumber_head applies.1)).symm
  | string =>
      simp only [Matcher.class?, Option.ite_none_right_eq_some] at applies
      rw [isString_head applies.1]
      rfl
  | keyword =>
      obtain ⟨word, found, -⟩ := Option.map_eq_some_iff.mp applies
      have shape := isIdentifier_cons.mp (isIdentifier_of_keyword? found)
      exact (leadOf_of_startsIdentifier shape.1).symm
  | identifier =>
      simp only [Matcher.class?, Option.ite_none_right_eq_some] at applies
      exact (leadOf_of_startsIdentifier (isIdentifier_cons.mp applies.1).1).symm
  | plainSymbol =>
      obtain ⟨symbol, found, -⟩ := Option.map_eq_some_iff.mp applies
      exact (leadOf_of_symbol (eq_spelling_of_symbolIn? found).symm).symm
  | extensibleSymbol =>
      obtain ⟨symbol, found, -⟩ := Option.map_eq_some_iff.mp applies
      exact (leadOf_of_symbol (eq_spelling_of_symbolIn? found).symm).symm

theorem classBy_filter {text : List Char} (keep : Matcher → Bool)
    (idle : ∀ matcher : Matcher, keep matcher = false → matcher.class? text = none)
    (matchers : List Matcher) : classBy (matchers.filter keep) text = classBy matchers text := by
  unfold classBy
  congr 1
  induction matchers with
  | nil => rfl
  | cons matcher later ih =>
      cases kept : keep matcher with
      | true =>
          rw [List.filter_cons_of_pos kept, List.findSome?_cons, List.findSome?_cons, ih]
      | false =>
          rw [List.filter_cons_of_neg (Bool.eq_false_iff.mp kept), List.findSome?_cons,
            idle matcher kept]
          exact ih

/-- Matchers with another lead than the candidate do not apply. -/
theorem classBy_lead (matchers : List Matcher) (first : Char) (rest : List Char) :
    classBy matchers (first :: rest) =
      classBy (matchers.filter fun matcher => matcher.lead = leadOf first)
        (first :: rest) := by
  refine (classBy_filter _ (fun matcher other => ?_) matchers).symm
  have different : matcher.lead ≠ leadOf first := of_decide_eq_false other
  cases applies : matcher.class? (first :: rest) with
  | none => rfl
  | some found => exact absurd (Matcher.lead_of_class? applies) different

/-! ### Classes by lead -/

theorem classOf_nil : classOf [] = .unmatched := by decide

theorem classOf_quote (rest : List Char) :
    classOf ('"' :: rest) =
      if isString ('"' :: rest) then .token .string else .unmatched := by
  have one : (Matcher.order.filter fun matcher => matcher.lead = leadOf '"') = [.string] := by
    decide
  rw [classOf, classBy_lead, one, classBy, List.findSome?_singleton, Matcher.class?]
  split <;> rfl

theorem classOf_digit {first : Char} (digit : first.isDigit = true) (rest : List Char) :
    classOf (first :: rest) =
      if isNumber (first :: rest) then .token .number else .unmatched := by
  have one : (Matcher.order.filter fun matcher => matcher.lead = .digit) = [.number] := by
    decide
  rw [classOf, classBy_lead, leadOf_of_isDigit digit, one, classBy,
    List.findSome?_singleton, Matcher.class?]
  split <;> rfl

theorem classOf_letter {first : Char} (starts : startsIdentifier first = true)
    (rest : List Char) :
    classOf (first :: rest) =
      if rest.all continuesIdentifier then .token (wordKind (first :: rest))
      else .unmatched := by
  have two :
      (Matcher.order.filter fun matcher => matcher.lead = .letter) =
        [.keyword, .identifier] := by
    decide
  rw [classOf, classBy_lead, leadOf_of_startsIdentifier starts, two, classBy,
    List.findSome?_cons, List.findSome?_singleton, Matcher.class?, Matcher.class?, wordKind]
  cases found : keyword? (first :: rest) with
  | none =>
      simp only [Option.map_none, isIdentifier, starts, Bool.true_and]
      split <;> rfl
  | some word =>
      have shape := isIdentifier_cons.mp (isIdentifier_of_keyword? found)
      rw [if_pos shape.2]
      rfl

theorem classOf_mark {first : Char} (mark : leadOf first = .mark) (rest : List Char) :
    classOf (first :: rest) =
      if first :: rest = commentMark.toList then .commentMark
      else
        match symbolIn? Symbol.all (first :: rest) with
        | some symbol => .token (.symbol symbol)
        | none => .unmatched := by
  have three :
      (Matcher.order.filter fun matcher => matcher.lead = .mark) =
        [.commentMark, .plainSymbol, .extensibleSymbol] := by
    decide
  rw [classOf, classBy_lead, mark, three, classBy, List.findSome?_cons, List.findSome?_cons,
    List.findSome?_singleton, Matcher.class?, Matcher.class?, Matcher.class?, symbolIn?_all]
  by_cases comment : first :: rest = commentMark.toList
  · rw [if_pos comment, if_pos comment]
    rfl
  · rw [if_neg comment, if_neg comment]
    cases symbolIn? Symbol.plain (first :: rest) with
    | some symbol => rfl
    | none => cases symbolIn? Symbol.extensible (first :: rest) <;> rfl

end Lexeme

end LoxLexer
