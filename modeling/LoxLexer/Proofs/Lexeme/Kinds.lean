/- Kinds and the texts that have them.  A text has one kind only. -/
import LoxLexer.Proofs.Lexeme.Growth

namespace LoxLexer.Lexeme

/-- The texts that the matchers accept, by the kind that they give. -/
inductive Shaped : Kind → List Char → Prop
  | number {text : List Char} : isNumber text = true → Shaped .number text
  | string {text : List Char} : isString text = true → Shaped .string text
  | keyword (word : Keyword) : Shaped (.keyword word) word.spelling.toList
  | identifier {text : List Char} : isIdentifier text = true → Shaped .identifier text
  | symbol (symbol : Symbol) : Shaped (.symbol symbol) symbol.spelling.toList

theorem Matcher.shaped {matcher : Matcher} {text : List Char} {kind : Kind}
    (applies : matcher.class? text = some (.token kind)) : Shaped kind text := by
  cases matcher with
  | commentMark =>
      obtain ⟨-, impossible⟩ := Option.ite_none_right_eq_some.mp applies
      cases impossible
  | number =>
      obtain ⟨number, same⟩ := Option.ite_none_right_eq_some.mp applies
      cases same
      exact .number number
  | string =>
      obtain ⟨string, same⟩ := Option.ite_none_right_eq_some.mp applies
      cases same
      exact .string string
  | keyword =>
      obtain ⟨word, found, same⟩ := Option.map_eq_some_iff.mp applies
      cases same
      rw [eq_spelling_of_keyword? found]
      exact .keyword word
  | identifier =>
      obtain ⟨identifier, same⟩ := Option.ite_none_right_eq_some.mp applies
      cases same
      exact .identifier identifier
  | plainSymbol =>
      obtain ⟨symbol, found, same⟩ := Option.map_eq_some_iff.mp applies
      cases same
      rw [eq_spelling_of_symbolIn? found]
      exact .symbol symbol
  | extensibleSymbol =>
      obtain ⟨symbol, found, same⟩ := Option.map_eq_some_iff.mp applies
      cases same
      rw [eq_spelling_of_symbolIn? found]
      exact .symbol symbol

theorem shaped_of_classOf {text : List Char} {kind : Kind}
    (classified : classOf text = .token kind) : Shaped kind text := by
  unfold classOf classBy at classified
  cases found : Matcher.order.findSome? (Matcher.class? text) with
  | none =>
      rw [found] at classified
      cases classified
  | some decided =>
      rw [found, Option.getD_some] at classified
      rw [classified] at found
      obtain ⟨matcher, -, applies⟩ := List.exists_of_findSome?_eq_some found
      exact Matcher.shaped applies

theorem classOf_keyword (word : Keyword) :
    classOf word.spelling.toList = .token (.keyword word) := by
  cases word <;> decide

theorem classOf_comment (text : List Char) (kind : Kind) :
    classOf ('/' :: '/' :: text) ≠ .token kind := by
  cases text with
  | nil => exact fun impossible => by cases impossible
  | cons c text =>
      have long : 2 < ('/' :: '/' :: c :: text).length :=
        Nat.lt_add_of_pos_left (Nat.zero_lt_succ text.length)
      obtain ⟨notComment, unspelled⟩ := not_spelled_of_long long
      rw [classOf_unspelled (by decide) notComment unspelled]
      exact fun impossible => by cases impossible

/-! ### Lexemes of tokens -/

inductive HasLexeme : Kind → List Char → Prop
  | endOfSource : HasLexeme .endOfSource []
  | comment (text : List Char) : HasLexeme .comment ('/' :: '/' :: text)
  | classified {kind : Kind} {lexeme : List Char} :
      classOf lexeme = .token kind → HasLexeme kind lexeme

namespace HasLexeme

variable {kind other : Kind} {lexeme otherLexeme : List Char}

theorem kind_unique (first : HasLexeme kind lexeme) (second : HasLexeme other lexeme) :
    kind = other := by
  cases first with
  | endOfSource =>
      cases second with
      | endOfSource => rfl
      | classified classified =>
          rw [classOf_nil] at classified
          cases classified
  | comment text =>
      cases second with
      | comment text => rfl
      | classified classified => exact absurd classified (classOf_comment text other)
  | classified classified =>
      cases second with
      | endOfSource =>
          rw [classOf_nil] at classified
          cases classified
      | comment text => exact absurd classified (classOf_comment text kind)
      | classified otherClassified => exact Class.token.inj (classified.symm.trans otherClassified)

/-- Only numbers, strings, identifiers and comments differ among themselves. -/
theorem lexeme_unique (first : HasLexeme kind lexeme) (second : HasLexeme kind otherLexeme)
    (spelled : kind ∉ [.number, .string, .identifier, .comment]) : lexeme = otherLexeme := by
  cases first with
  | endOfSource =>
      cases second with
      | endOfSource => rfl
      | classified classified => cases shaped_of_classOf classified
  | comment text => exact absurd (by decide) spelled
  | classified classified =>
      cases shaped_of_classOf classified with
      | keyword word =>
          cases second with
          | classified otherClassified =>
              cases shaped_of_classOf otherClassified
              rfl
      | symbol symbol =>
          cases second with
          | classified otherClassified =>
              cases shaped_of_classOf otherClassified
              rfl
      | number number => exact absurd (by decide) spelled
      | string string => exact absurd (by decide) spelled
      | identifier identifier => exact absurd (by decide) spelled

theorem isReserved_iff (has : HasLexeme kind lexeme) :
    kind.isReserved = true ↔ ∃ word : Keyword, lexeme = word.spelling.toList := by
  constructor
  · intro reserved
    cases kind with
    | keyword word =>
        have spelled := HasLexeme.classified (classOf_keyword word)
        exact ⟨word, has.lexeme_unique spelled (by simp)⟩
    | _ => cases reserved
  · rintro ⟨word, rfl⟩
    rw [has.kind_unique (.classified (classOf_keyword word))]
    rfl

end HasLexeme

end LoxLexer.Lexeme
