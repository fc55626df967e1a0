/- Growing a candidate finds the longest lexeme.  Each rule for what a text opens with describes
one run of candidates, and the growing search follows the run to its end. -/
import LoxLexer.Proofs.Lexeme.Opens

namespace LoxLexer.Lexeme

open Text (StartsOutside)

/-! ### Steps of the search -/

theorem grow_token {longest : Longest} {taken unread : List Char} {c : Char} {kind : Kind}
    (matched : classOf (taken ++ [c]) = .token kind) :
    grow longest taken (c :: unread) =
      grow (some (kind, (taken ++ [c]).length)) (taken ++ [c]) unread := by
  rw [grow]
  simp only [matched]

theorem grow_skip {longest : Longest} {taken unread : List Char} {c : Char}
    (unmatched : classOf (taken ++ [c]) = .unmatched)
    (grows : mayGrow longest (taken ++ [c]) unread = true) :
    grow longest taken (c :: unread) = grow longest (taken ++ [c]) unread := by
  rw [grow]
  simp only [unmatched, grows, if_true]

theorem grow_stop {longest : Longest} {taken unread : List Char} {c : Char}
    (unmatched : classOf (taken ++ [c]) = .unmatched)
    (stops : mayGrow longest (taken ++ [c]) unread = false) :
    grow longest taken (c :: unread) = .settle longest (taken ++ [c]) := by
  rw [grow]
  simp only [unmatched, stops, Bool.false_eq_true, if_false]

/-- A token is final where the next candidate has no class and may not grow. -/
theorem grow_boundary {kind : Kind} {length : Nat} {taken rest : List Char}
    (boundary : ∀ next after, rest = next :: after →
      classOf (taken ++ [next]) = .unmatched ∧
        mayGrow (some (kind, length)) (taken ++ [next]) after = false) :
    grow (some (kind, length)) taken rest = .token kind length := by
  cases rest with
  | nil => rfl
  | cons next after =>
      obtain ⟨unmatched, stops⟩ := boundary next after rfl
      rw [grow_stop unmatched stops]
      rfl

/-- Along a run of tokens only the last one is remembered. -/
theorem grow_run (kindOf : List Char → Kind) {run : List Char} (nonempty : run ≠ [])
    (longest : Longest) (taken rest : List Char)
    (matched : ∀ initial, initial ≠ [] → initial <+: run →
      classOf (taken ++ initial) = .token (kindOf (taken ++ initial))) :
    grow longest taken (run ++ rest) =
      grow (some (kindOf (taken ++ run), (taken ++ run).length)) (taken ++ run) rest := by
  induction run generalizing longest taken with
  | nil => exact absurd rfl nonempty
  | cons c run ih =>
      have step := matched [c] (List.cons_ne_nil c []) ⟨run, rfl⟩
      rw [List.cons_append, grow_token step]
      -- The longest token so far is always the whole candidate, so it is forgotten.
      by_cases last : run = []
      · subst last
        rfl
      · have moved : taken ++ c :: run = taken ++ [c] ++ run := by simp
        rw [moved]
        apply ih last
        intro initial _ initialRun
        have longer := matched (c :: initial) (List.cons_ne_nil c initial)
          (List.cons_prefix_cons.mpr ⟨rfl, initialRun⟩)
        simpa using longer

theorem grow_unquoted {body : List Char} (unquoted : ∀ c ∈ body, c ≠ '"')
    (seen rest : List Char) :
    grow none ('"' :: seen) (body ++ rest) = grow none ('"' :: seen ++ body) rest := by
  induction body generalizing seen with
  | nil => simp
  | cons c body ih =>
      have notQuote := unquoted c List.mem_cons_self
      have unmatched : classOf ('"' :: seen ++ [c]) = .unmatched := by
        rw [List.cons_append, classOf_quote]
        simp [isString, notQuote]
      rw [List.cons_append, grow_skip unmatched rfl, List.cons_append,
        ih (fun next member => unquoted next (List.mem_cons_of_mem c member))]
      simp

/-! ### Numbers -/

theorem isFraction_singleton (c : Char) : isFraction [c] = false := by
  unfold isFraction
  split <;> simp_all

theorem isFraction_point (places : List Char) :
    isFraction ('.' :: places) = (!places.isEmpty && places.all Char.isDigit) := by
  rfl

theorem isNumber_append {digits rest : List Char} (nonempty : digits ≠ [])
    (areDigits : ∀ c ∈ digits, c.isDigit = true) (boundary : StartsOutside Char.isDigit rest) :
    isNumber (digits ++ rest) = isFraction rest := by
  rw [isNumber, Text.takeWhile_run areDigits boundary, Text.dropWhile_run areDigits boundary]
  simp [nonempty]

theorem classOf_digits {digits rest : List Char} (nonempty : digits ≠ [])
    (areDigits : ∀ c ∈ digits, c.isDigit = true) (boundary : StartsOutside Char.isDigit rest) :
    classOf (digits ++ rest) = if isFraction rest then .token .number else .unmatched := by
  cases digits with
  | nil => exact absurd rfl nonempty
  | cons first digits =>
      have shape := isNumber_append nonempty areDigits boundary
      rw [List.cons_append] at shape ⊢
      rw [classOf_digit (areDigits first List.mem_cons_self), shape]

theorem grow_digits {digits : List Char} (nonempty : digits ≠ [])
    (areDigits : ∀ c ∈ digits, c.isDigit = true) (rest : List Char) :
    grow none [] (digits ++ rest) = grow (some (.number, digits.length)) digits rest := by
  apply grow_run (fun _ => .number) nonempty none [] rest
  intro initial initialNonempty initialRun
  have shape := classOf_digits initialNonempty
    (fun c member => areDigits c (initialRun.subset member)) Text.startsOutside_nil
  simpa [isFraction] using shape

theorem opening_whole {digits rest : List Char} (nonempty : digits ≠ [])
    (areDigits : ∀ c ∈ digits, c.isDigit = true) (boundary : StartsOutside Char.isDigit rest)
    (noFraction : ∀ after, rest = '.' :: after → StartsOutside Char.isDigit after) :
    opening (digits ++ rest) = .token .number digits.length := by
  rw [opening, grow_digits nonempty areDigits]
  apply grow_boundary
  rintro next after rfl
  have nextStart : StartsOutside Char.isDigit [next] :=
    Text.startsOutside_cons.mpr (Text.startsOutside_cons.mp boundary)
  refine ⟨by simp [classOf_digits nonempty areDigits nextStart, isFraction_singleton], ?_⟩
  by_cases point : next = '.'
  · subst point
    cases after with
    | nil => simp [mayGrow]
    | cons c after =>
        have notDigit := Text.startsOutside_cons.mp (noFraction (c :: after) rfl)
        have pointStart : StartsOutside Char.isDigit ['.', c] :=
          Text.startsOutside_cons.mpr (by decide)
        have unmatched := classOf_digits nonempty areDigits pointStart
        simp [mayGrow, unmatched, isFraction_point, notDigit]
  · simp [mayGrow, point]

theorem classOf_point {digits : List Char} (nonempty : digits ≠ [])
    (areDigits : ∀ c ∈ digits, c.isDigit = true) (after : List Char) :
    classOf (digits ++ ['.'] ++ after) =
      if isFraction ('.' :: after) then .token .number else .unmatched := by
  have point : StartsOutside Char.isDigit ('.' :: after) :=
    Text.startsOutside_cons.mpr (by decide)
  simpa using classOf_digits nonempty areDigits point

theorem mayGrow_number {length : Nat} {candidate after : List Char}
    (unmatched : ∀ next, classOf (candidate ++ [next]) ≠ .token .number) :
    mayGrow (some (.number, length)) candidate after = false := by
  cases after with
  | nil => simp [mayGrow]
  | cons next after => simp [mayGrow, unmatched next]

/-- After the point the candidate without a fraction is passed over. -/
theorem grow_point {digits places : List Char} (nonempty : digits ≠ [])
    (areDigits : ∀ c ∈ digits, c.isDigit = true) (placesNonempty : places ≠ [])
    (arePlaces : ∀ c ∈ places, c.isDigit = true) (rest : List Char) :
    grow (some (.number, digits.length)) digits ('.' :: (places ++ rest)) =
      grow (some (.number, digits.length)) (digits ++ ['.']) (places ++ rest) := by
  have classAt := classOf_point nonempty areDigits
  cases places with
  | nil => exact absurd rfl placesNonempty
  | cons place places =>
      have digit := arePlaces place List.mem_cons_self
      apply grow_skip
      · have bare := classAt []
        rw [List.append_nil, isFraction_singleton] at bare
        exact bare
      · simp [mayGrow, -List.append_assoc, classAt, isFraction_point, digit]

theorem opening_fraction {digits places rest : List Char} (nonempty : digits ≠ [])
    (areDigits : ∀ c ∈ digits, c.isDigit = true) (placesNonempty : places ≠ [])
    (arePlaces : ∀ c ∈ places, c.isDigit = true) (boundary : StartsOutside Char.isDigit rest) :
    opening (digits ++ '.' :: places ++ rest) =
      .token .number (digits ++ '.' :: places).length := by
  have classAt := classOf_point nonempty areDigits
  rw [List.append_assoc, List.cons_append, opening, grow_digits nonempty areDigits,
    grow_point nonempty areDigits placesNonempty arePlaces,
    grow_run (fun _ => .number) placesNonempty]
  · rw [grow_boundary]
    · rw [List.append_assoc, List.singleton_append]
    · rintro next after rfl
      have notDigit := Text.startsOutside_cons.mp boundary
      have unmatched (later : List Char) :
          classOf (digits ++ ['.'] ++ places ++ next :: later) = .unmatched := by
        rw [List.append_assoc, classAt]
        simp [isFraction_point, notDigit]
      refine ⟨unmatched [], mayGrow_number ?_⟩
      intro c
      rw [List.append_assoc, List.singleton_append, unmatched]
      exact fun impossible => by cases impossible
  · intro initial initialNonempty initialRun
    have initialPlaces : initial.all Char.isDigit = true :=
      List.all_eq_true.mpr fun c member => arePlaces c (initialRun.subset member)
    rw [classAt, isFraction_point, initialPlaces]
    simp [initialNonempty]

/-! ### Words, strings and marks -/

theorem mayGrow_of_ne_number {kind : Kind} (notNumber : kind ≠ .number) (length : Nat)
    (candidate unread : List Char) : mayGrow (some (kind, length)) candidate unread = false := by
  cases kind with
  | number => exact absurd rfl notNumber
  | _ => rfl

theorem opening_word {first : Char} {letters rest : List Char}
    (starts : startsIdentifier first = true)
    (continued : ∀ c ∈ letters, continuesIdentifier c = true)
    (boundary : StartsOutside continuesIdentifier rest) :
    opening (first :: letters ++ rest) =
      .token (wordKind (first :: letters)) (letters.length + 1) := by
  rw [opening, grow_run wordKind (List.cons_ne_nil first letters)]
  · apply grow_boundary
    rintro next after rfl
    have outside := Text.startsOutside_cons.mp boundary
    refine ⟨by simp [classOf_letter starts, outside], mayGrow_of_ne_number ?_ _ _ _⟩
    unfold wordKind
    split <;> simp
  · intro initial initialNonempty initialRun
    cases initial with
    | nil => exact absurd rfl initialNonempty
    | cons c initial =>
        obtain ⟨rfl, lettersRun⟩ := List.cons_prefix_cons.mp initialRun
        have inside : initial.all continuesIdentifier = true :=
          List.all_eq_true.mpr fun c member => continued c (lettersRun.subset member)
        rw [List.nil_append, classOf_letter starts, if_pos inside]

theorem isString_concat (chars : List Char) (last : Char) :
    isString ('"' :: (chars ++ [last])) =
      (decide (last = '"') && (chars ++ [last]).all (· ≠ '\n')) := by
  simp [isString]

theorem opening_quote {body : List Char} (unquoted : ∀ c ∈ body, c ≠ '"')
    (rest : List Char) : opening ('"' :: body ++ rest) = grow none ('"' :: body) rest := by
  have alone : classOf ([] ++ ['"']) = .unmatched := by decide
  rw [List.cons_append, opening, grow_skip alone rfl, List.nil_append,
    grow_unquoted unquoted]
  rfl

theorem opening_openString {body : List Char} (unquoted : ∀ c ∈ body, c ≠ '"') :
    opening ('"' :: body) = .openString := by
  have walk := opening_quote unquoted []
  rw [List.append_nil] at walk
  rw [walk]
  rfl

theorem opening_string {body rest : List Char} (furtherQuotes : Nat)
    (unquoted : ∀ c ∈ body, c ≠ '"') (boundary : rest.head? ≠ some '"')
    (oneLine : '\n' ∉ body) :
    opening ('"' :: body ++ '"' :: List.replicate furtherQuotes '"' ++ rest) =
      .token .string ('"' :: body ++ '"' :: List.replicate furtherQuotes '"').length := by
  rw [List.append_assoc, opening_quote unquoted,
    grow_run (fun _ => .string) (List.cons_ne_nil '"' (List.replicate furtherQuotes '"'))]
  · apply grow_boundary
    rintro next after rfl
    have notQuote : next ≠ '"' := by simpa using boundary
    refine ⟨?_, mayGrow_of_ne_number (by simp) _ _ _⟩
    rw [List.cons_append, List.cons_append, classOf_quote, isString_concat]
    simp [notQuote]
  · intro initial initialNonempty initialRun
    have quotes : ∀ c ∈ initial, c = '"' := by
      intro c member
      have inRun := initialRun.subset member
      simp only [List.mem_cons, List.mem_replicate] at inRun
      rcases inRun with quote | ⟨_, quote⟩ <;> exact quote
    rcases List.eq_nil_or_concat initial with empty | ⟨more, last, rfl⟩
    · exact absurd empty initialNonempty
    · have lastQuote := quotes last (by simp)
      have sameLine : (body ++ more ++ [last]).all (· ≠ '\n') = true := by
        simp only [List.all_eq_true, List.mem_append, decide_eq_true_eq]
        rintro c ((inBody | inMore) | inLast)
        · rintro rfl
          exact oneLine inBody
        · rw [quotes c (by simp [inMore])]
          decide
        · rw [quotes c (by simp_all)]
          decide
      rw [List.cons_append, List.concat_eq_append, ← List.append_assoc, classOf_quote,
        isString_concat, sameLine, lastQuote]
      rfl

theorem classOf_spelling (symbol : Symbol) :
    classOf symbol.spelling.toList = .token (.symbol symbol) := by
  cases symbol <;> decide

theorem classOf_unspelled {first : Char} {more : List Char} (mark : leadOf first = .mark)
    (notComment : first :: more ≠ commentMark.toList)
    (unspelled : ∀ symbol : Symbol, first :: more ≠ symbol.spelling.toList) :
    classOf (first :: more) = .unmatched := by
  rw [classOf_mark mark, if_neg notComment]
  cases found : symbolIn? Symbol.all (first :: more) with
  | none => rfl
  | some symbol => exact absurd (eq_spelling_of_symbolIn? found) (unspelled symbol)

theorem classOf_startless {first : Char} (mark : leadOf first = .mark)
    (unspelled : ∀ symbol : Symbol, [first] ≠ symbol.spelling.toList) (more : List Char) :
    classOf (first :: more) = .unmatched := by
  apply classOf_unspelled mark
  · intro comment
    rw [(List.cons.inj comment).1] at unspelled
    exact unspelled .slash rfl
  · intro symbol spelled
    obtain ⟨short, shortSpelled⟩ := Symbol.exists_single spelled.symm
    exact unspelled short shortSpelled.symm

theorem opening_comment (text : List Char) : opening ('/' :: '/' :: text) = .comment := by
  have slash : classOf ([] ++ ['/']) = .token (.symbol .slash) := by decide
  have mark : classOf ([] ++ ['/'] ++ ['/']) = .commentMark := by decide
  rw [opening, grow_token slash, grow]
  simp only [mark]

theorem opening_symbol (symbol : Symbol) {rest : List Char}
    (boundary : EndsSymbol symbol.spelling.toList rest) :
    opening (symbol.spelling.toList ++ rest) =
      .token (.symbol symbol) symbol.spelling.toList.length := by
  have final : grow (some (.symbol symbol, symbol.spelling.toList.length))
      symbol.spelling.toList rest = .token (.symbol symbol) symbol.spelling.toList.length := by
    apply grow_boundary
    intro next after split
    obtain ⟨notComment, unspelled⟩ := boundary next after split
    refine ⟨?_, mayGrow_of_ne_number (by simp) _ _ _⟩
    obtain ⟨first, alone | ⟨pair, -⟩⟩ := symbol.spelling_cases
    · rw [alone] at notComment unspelled ⊢
      exact classOf_unspelled (leadOf_of_symbol alone) notComment unspelled
    · rw [pair] at notComment unspelled ⊢
      exact classOf_unspelled (leadOf_of_symbol pair) notComment unspelled
  have matched := classOf_spelling symbol
  obtain ⟨first, alone | ⟨pair, -, short, shortSpelled⟩⟩ := symbol.spelling_cases
  · rw [alone] at matched final ⊢
    rw [opening, List.singleton_append, grow_token matched]
    exact final
  · have shortMatched := classOf_spelling short
    rw [shortSpelled] at shortMatched
    rw [pair] at matched final ⊢
    rw [opening, List.cons_append, List.singleton_append, grow_token shortMatched,
      grow_token matched]
    exact final

theorem opening_nothing {first : Char} (rest : List Char) (mark : leadOf first = .mark)
    (unspelled : ∀ symbol : Symbol, [first] ≠ symbol.spelling.toList) :
    opening (first :: rest) = .nothing := by
  have notQuote := (leadOf_eq_mark.mp mark).1
  have closed : startsString [first] = false := by simpa [startsString] using notQuote
  have unmatched : classOf ([] ++ [first]) = .unmatched :=
    classOf_unspelled mark (by simp [commentMark]) unspelled
  have stops : mayGrow none ([] ++ [first]) rest = false := closed
  rw [opening, grow_stop unmatched stops]
  simp [Opening.settle, closed]

/-! ### What a text opens with -/

theorem opening_complete {kind : Kind} {lexeme rest : List Char} (oneLine : '\n' ∉ lexeme)
    (complete : Complete kind lexeme rest) :
    opening (lexeme ++ rest) = .token kind lexeme.length := by
  cases complete with
  | string furtherQuotes unquoted boundary =>
      exact opening_string furtherQuotes unquoted boundary (by simp_all)
  | whole nonempty areDigits boundary noFraction =>
      exact opening_whole nonempty areDigits boundary noFraction
  | fraction nonempty areDigits placesNonempty arePlaces boundary =>
      exact opening_fraction nonempty areDigits placesNonempty arePlaces boundary
  | word starts continued boundary => exact opening_word starts continued boundary
  | symbol symbol boundary => exact opening_symbol symbol boundary

theorem opening_eq_of_opens {text : List Char} {found : Opening} (oneLine : '\n' ∉ text)
    (opens : Opens text found) : opening text = found := by
  cases opens with
  | comment text => exact opening_comment text
  | token complete =>
      exact opening_complete (fun member => oneLine (List.mem_append_left _ member)) complete
  | openString unquoted => exact opening_openString unquoted
  | nothing rest mark unspelled => exact opening_nothing rest mark unspelled

/-- The rules say what a text on one line opens with. -/
theorem opens_opening {first : Char} {rest : List Char} (oneLine : '\n' ∉ first :: rest) :
    Opens (first :: rest) (opening (first :: rest)) := by
  obtain ⟨found, opens⟩ := exists_opens first rest
  rw [opening_eq_of_opens oneLine opens]
  exact opens

/-- Growing candidates and looking at every character once find the same. -/
theorem opening_eq_onePassOpening {text : List Char} (oneLine : '\n' ∉ text) :
    opening text = onePassOpening text := by
  cases text with
  | nil => rfl
  | cons first rest => exact (onePassOpening_eq_of_opens (opens_opening oneLine)).symm

theorem opening_eq_onePassOpening_number :
    '\n' ∉ "12.5.6".toList ∧ opening "12.5.6".toList = .token .number 4 :=
  ⟨by decide, (opening_eq_onePassOpening (by decide)).trans (by decide)⟩

end LoxLexer.Lexeme
