/- The lexeme that a text opens with is its longest one.  No prefix that goes on behind a whole
lexeme has a class, unless both are strings and one without a class stands between them. -/
import LoxLexer.Proofs.Lexeme.Strings

namespace LoxLexer.Lexeme

open Text (StartsOutside)

/-! ### Whole lexemes and what follows them -/

theorem Complete.length_pos {kind : Kind} {lexeme rest : List Char}
    (complete : Complete kind lexeme rest) : 0 < lexeme.length := by
  obtain ⟨first, more, rfl, -⟩ := complete.head_not_blank
  exact Nat.zero_lt_succ more.length

theorem Complete.classOf_eq {kind : Kind} {lexeme rest : List Char}
    (complete : Complete kind lexeme rest) (oneLine : '\n' ∉ lexeme) :
    classOf lexeme = .token kind := by
  cases complete with
  | @string body _ furtherQuotes unquoted boundary =>
      have enclosed := stringOf_eq_enclosed body furtherQuotes
      rw [stringOf] at enclosed
      rw [enclosed] at oneLine ⊢
      apply classOf_enclosed
      intro inside
      exact oneLine (List.mem_append_left _ (List.mem_cons_of_mem _ inside))
  | whole nonempty areDigits boundary noFraction =>
      have digitsOnly := classOf_digits nonempty areDigits Text.startsOutside_nil
      rwa [List.append_nil] at digitsOnly
  | @fraction digits places _ nonempty areDigits placesNonempty arePlaces boundary =>
      have pointed := classOf_point nonempty areDigits places
      have isPlaces : places.all Char.isDigit = true := List.all_eq_true.mpr arePlaces
      rwa [List.append_assoc, List.singleton_append, isFraction_point, isPlaces,
        List.isEmpty_eq_false_iff.mpr placesNonempty] at pointed
  | word starts continued boundary =>
      rw [classOf_letter starts, if_pos (List.all_eq_true.mpr continued)]
  | symbol symbol boundary => exact classOf_spelling symbol

theorem isFraction_of_ne_point {c : Char} (notPoint : c ≠ '.') (later : List Char) :
    isFraction (c :: later) = false := by
  unfold isFraction
  split <;> simp_all

/-- No prefix of a text has a class that goes on behind a whole lexeme, unless both are
strings. -/
theorem Complete.classOf_longer {kind : Kind} {lexeme more later : List Char} {next : Char}
    (complete : Complete kind lexeme (next :: more ++ later)) (notString : kind ≠ .string) :
    classOf (lexeme ++ next :: more) = .unmatched := by
  cases complete with
  | string furtherQuotes unquoted boundary => exact absurd rfl notString
  | whole nonempty areDigits boundary noFraction =>
      have nextOutside : StartsOutside Char.isDigit (next :: more) :=
        Text.startsOutside_cons.mpr (Text.startsOutside_cons.mp boundary)
      have noMore : isFraction (next :: more) = false := by
        by_cases point : next = '.'
        · subst point
          rw [isFraction_point]
          cases more with
          | nil => rfl
          | cons c more =>
              have notDigit := Text.startsOutside_cons.mp (noFraction (c :: more ++ later) rfl)
              rw [List.all_cons, notDigit]
              rfl
        · exact isFraction_of_ne_point point more
      rw [classOf_digits nonempty areDigits nextOutside, noMore]
      rfl
  | @fraction digits places _ nonempty areDigits placesNonempty arePlaces boundary =>
      have notDigit := Text.startsOutside_cons.mp boundary
      have pointed := classOf_point nonempty areDigits (places ++ next :: more)
      simpa [isFraction_point, notDigit] using pointed
  | @word first letters _ starts continued boundary =>
      have outside := Text.startsOutside_cons.mp boundary
      rw [List.cons_append, classOf_letter starts]
      simp [outside]
  | symbol symbol boundary =>
      obtain ⟨first, tail, spelled⟩ := symbol.exists_spelling
      obtain ⟨notComment, unspelled⟩ :
          symbol.spelling.toList ++ next :: more ≠ commentMark.toList ∧
            ∀ longer : Symbol, symbol.spelling.toList ++ next :: more ≠ longer.spelling.toList := by
        cases more with
        | nil => exact boundary next later rfl
        | cons second more =>
            apply not_spelled_of_long
            rw [spelled]
            simp only [List.length_append, List.length_cons]
            omega
      rw [spelled, List.cons_append] at notComment unspelled ⊢
      exact classOf_unspelled (leadOf_of_symbol spelled) notComment unspelled

/-- Right behind the closing quotes of a string the text has no class. -/
theorem Complete.classOf_string_next {kind : Kind} {lexeme later : List Char} {next : Char}
    (complete : Complete kind lexeme (next :: later)) (isString : kind = .string) :
    classOf (lexeme ++ [next]) = .unmatched := by
  obtain ⟨body, furtherQuotes, -, rfl, boundary⟩ := complete.string_shape isString
  have notQuote : next ≠ '"' := by simpa using boundary
  exact classOf_unclosed _ notQuote

theorem Complete.startsString_iff {kind : Kind} {lexeme rest : List Char}
    (complete : Complete kind lexeme rest) :
    startsString (lexeme ++ rest) = true ↔ kind = .string := by
  constructor
  · intro starts
    obtain ⟨first, more, rfl, -⟩ := complete.head_not_blank
    have quote : first = '"' := by simpa [startsString] using starts
    exact complete.eq_string_of_quote (by simp [quote])
  · intro isString
    obtain ⟨body, furtherQuotes, -, rfl, -⟩ := complete.string_shape isString
    rfl

/-! ### Prefixes -/

theorem exists_take_longer {lexeme rest : List Char} {longer : Nat}
    (behind : lexeme.length < longer) (inside : longer ≤ (lexeme ++ rest).length) :
    ∃ next more later, rest = next :: more ++ later ∧ more.length + 1 = longer - lexeme.length ∧
      (lexeme ++ rest).take longer = lexeme ++ next :: more := by
  rw [List.length_append] at inside
  have taken : (rest.take (longer - lexeme.length)).length = longer - lexeme.length := by
    rw [List.length_take]
    omega
  cases front : rest.take (longer - lexeme.length) with
  | nil =>
      rw [front, List.length_nil] at taken
      omega
  | cons next more =>
      refine ⟨next, more, rest.drop (longer - lexeme.length), ?_, ?_, ?_⟩
      · rw [← front, List.take_append_drop]
      · rw [front, List.length_cons] at taken
        exact taken
      · rw [List.take_append, List.take_of_length_le (Nat.le_of_lt behind), front]

theorem classOf_unquoted {body : List Char} (unquoted : ∀ c ∈ body, c ≠ '"') (length : Nat) :
    classOf (('"' :: body).take length) = .unmatched := by
  cases length with
  | zero => exact classOf_nil
  | succ length =>
      have noLast : (body.take length).getLast? ≠ some '"' := by
        intro last
        exact unquoted '"' (List.mem_of_mem_take (List.mem_of_getLast? last)) rfl
      rw [List.take_succ_cons, classOf_quote, isString]
      simp [noLast]

section

variable {text : List Char}

theorem Opens.classOf_take {kind : Kind} {length : Nat} (opens : Opens text (.token kind length))
    (oneLine : '\n' ∉ text) :
    1 ≤ length ∧ length ≤ text.length ∧ classOf (text.take length) = .token kind := by
  cases opens with
  | @token _ lexeme rest complete =>
      refine ⟨complete.length_pos, ?_, ?_⟩
      · rw [List.length_append]
        omega
      · rw [List.take_left]
        exact complete.classOf_eq fun feed => oneLine (List.mem_append_left rest feed)

theorem Opens.classOf_take_longer {kind : Kind} {length longer : Nat}
    (opens : Opens text (.token kind length)) (notString : startsString text = false)
    (behind : length < longer) (inside : longer ≤ text.length) :
    classOf (text.take longer) = .unmatched := by
  cases opens with
  | @token _ lexeme rest complete =>
      obtain ⟨next, more, later, rfl, -, taken⟩ := exists_take_longer behind inside
      rw [taken]
      apply complete.classOf_longer
      intro isString
      rw [complete.startsString_iff.mpr isString] at notString
      cases notString

/-- Behind a string there is a prefix without a class before any other string. -/
theorem Opens.exists_gap {kind : Kind} {length longer : Nat}
    (opens : Opens text (.token kind length)) (isString : startsString text = true)
    (behind : length < longer) (inside : longer ≤ text.length)
    (classified : classOf (text.take longer) ≠ .unmatched) :
    classOf (text.take longer) = .token .string ∧
      ∃ between, length < between ∧ between < longer ∧
        classOf (text.take between) = .unmatched := by
  cases opens with
  | @token _ lexeme rest complete =>
      have kindEq := complete.startsString_iff.mp isString
      obtain ⟨next, more, later, rfl, size, taken⟩ := exists_take_longer behind inside
      have gap := complete.classOf_string_next kindEq
      have nextTaken : (lexeme ++ (next :: more ++ later)).take (lexeme.length + 1) =
          lexeme ++ [next] := by
        rw [List.take_append, List.take_of_length_le (Nat.le_succ _), Nat.add_sub_cancel_left]
        rfl
      constructor
      · obtain ⟨body, furtherQuotes, -, rfl, -⟩ := complete.string_shape kindEq
        rw [taken, List.cons_append, List.cons_append, classOf_quote] at classified ⊢
        split at classified
        · rename_i closed
          rw [if_pos closed]
        · exact absurd rfl classified
      · refine ⟨lexeme.length + 1, Nat.lt_succ_self _, ?_, ?_⟩
        · -- The very next prefix has no class, so it is not the classified one.
          have different : more ≠ [] := by
            rintro rfl
            rw [taken, gap] at classified
            exact classified rfl
          have further := List.length_pos_iff.mpr different
          omega
        · rw [nextTaken, gap]

theorem Opens.prefix_of_comment (opens : Opens text .comment) : commentMark.toList <+: text := by
  cases opens with
  | comment later => exact ⟨later, rfl⟩

theorem Opens.classOf_take_of_openString (opens : Opens text .openString) :
    startsString text = true ∧ ∀ length, classOf (text.take length) = .unmatched := by
  cases opens with
  | openString unquoted => exact ⟨rfl, classOf_unquoted unquoted⟩

theorem Opens.classOf_take_of_nothing (opens : Opens text .nothing) :
    startsString text = false ∧ ∀ length, classOf (text.take length) = .unmatched := by
  cases opens with
  | @nothing first rest mark unspelled =>
      constructor
      · simpa [startsString] using (leadOf_eq_mark.mp mark).1
      · intro length
        cases length with
        | zero => exact classOf_nil
        | succ length => exact classOf_startless mark unspelled (rest.take length)

theorem Opens.eq_settle {found : Opening} (opens : Opens text found) (oneLine : '\n' ∉ text)
    (unmatched : ∀ length, classOf (text.take length) = .unmatched) :
    found = .settle none text := by
  cases opens with
  | comment rest =>
      have mark : classOf ['/', '/'] = .unmatched := unmatched 2
      exact absurd mark (by decide)
  | @token kind lexeme rest complete =>
      have taken := unmatched lexeme.length
      have notFeed : '\n' ∉ lexeme := fun feed => oneLine (List.mem_append_left rest feed)
      rw [List.take_left, complete.classOf_eq notFeed] at taken
      cases taken
  | openString unquoted => rfl
  | @nothing first rest mark unspelled =>
      have notQuote : startsString (first :: rest) = false := by
        simpa [startsString] using (leadOf_eq_mark.mp mark).1
      rw [Opening.settle, notQuote]
      rfl

end

/-- What a text opens with, said by the classes of its prefixes alone. -/
structure OpensLongest (text : List Char) : Prop where
  token : ∀ kind length, opening text = .token kind length →
    1 ≤ length ∧ length ≤ text.length ∧ classOf (text.take length) = .token kind
  longest : ∀ kind length, opening text = .token kind length → startsString text = false →
    ∀ longer, length < longer → longer ≤ text.length → classOf (text.take longer) = .unmatched
  string : ∀ kind length, opening text = .token kind length → startsString text = true →
    ∀ longer, length < longer → longer ≤ text.length → classOf (text.take longer) ≠ .unmatched →
      classOf (text.take longer) = .token .string ∧
        ∃ between, length < between ∧ between < longer ∧
          classOf (text.take between) = .unmatched
  comment : opening text = .comment ↔ commentMark.toList <+: text
  openString : opening text = .openString ↔
    startsString text = true ∧ ∀ length, classOf (text.take length) = .unmatched
  nothing : opening text = .nothing ↔
    startsString text = false ∧ ∀ length, classOf (text.take length) = .unmatched

/-- Growing candidates finds the longest prefix that is a token, although most prefixes are
never tried. -/
theorem opening_longest {text : List Char} (nonempty : text ≠ []) (oneLine : '\n' ∉ text) :
    OpensLongest text := by
  obtain ⟨first, rest, rfl⟩ := List.exists_cons_of_ne_nil nonempty
  have opens := opens_opening oneLine
  constructor
  case token =>
    intro kind length found
    rw [found] at opens
    exact opens.classOf_take oneLine
  case longest =>
    intro kind length found notString longer
    rw [found] at opens
    exact opens.classOf_take_longer notString
  case string =>
    intro kind length found isString longer
    rw [found] at opens
    exact opens.exists_gap isString
  case comment =>
    constructor
    · intro found
      rw [found] at opens
      exact opens.prefix_of_comment
    · rintro ⟨later, split⟩
      rw [← split]
      exact opening_comment later
  case openString =>
    constructor
    · intro found
      rw [found] at opens
      exact opens.classOf_take_of_openString
    · rintro ⟨isString, unmatched⟩
      rw [opens.eq_settle oneLine unmatched, Opening.settle, isString]
      rfl
  case nothing =>
    constructor
    · intro found
      rw [found] at opens
      exact opens.classOf_take_of_nothing
    · rintro ⟨notString, unmatched⟩
      rw [opens.eq_settle oneLine unmatched, Opening.settle, notString]
      rfl

theorem opening_longest_gap :
    let text := "\"a\"b\"".toList
    text ≠ [] ∧ '\n' ∉ text ∧ opening text = .token .string 3 ∧
      classOf (text.take 5) = .token .string ∧ OpensLongest text := by
  intro text
  have nonempty : text ≠ [] := by decide
  have oneLine : '\n' ∉ text := by decide
  exact ⟨nonempty, oneLine, by decide, by decide, opening_longest nonempty oneLine⟩

end LoxLexer.Lexeme
