/- What a text opens with, as a relation with one rule for each shape of a lexeme.  A rule names
the characters of the lexeme and says how the text goes on after them. -/
import LoxLexer.Proofs.Lexeme.Lead

namespace LoxLexer.Lexeme

open Text (StartsOutside)

/-- The next character makes neither a longer symbol nor the start of a comment. -/
def EndsSymbol (lexeme rest : List Char) : Prop :=
  ∀ next after, rest = next :: after →
    lexeme ++ [next] ≠ commentMark.toList ∧
      ∀ longer : Symbol, lexeme ++ [next] ≠ longer.spelling.toList

/-- A whole lexeme of a kind before a rest of the text that does not prolong it. -/
inductive Complete : Kind → List Char → List Char → Prop
  | string {body rest : List Char} (furtherQuotes : Nat) :
      (∀ c ∈ body, c ≠ '"') → rest.head? ≠ some '"' →
      Complete .string ('"' :: body ++ '"' :: List.replicate furtherQuotes '"') rest
  | whole {digits rest : List Char} :
      digits ≠ [] → (∀ c ∈ digits, c.isDigit = true) → StartsOutside Char.isDigit rest →
      (∀ after, rest = '.' :: after → StartsOutside Char.isDigit after) →
      Complete .number digits rest
  | fraction {digits places rest : List Char} :
      digits ≠ [] → (∀ c ∈ digits, c.isDigit = true) →
      places ≠ [] → (∀ c ∈ places, c.isDigit = true) → StartsOutside Char.isDigit rest →
      Complete .number (digits ++ '.' :: places) rest
  | word {first : Char} {letters rest : List Char} :
      startsIdentifier first = true → (∀ c ∈ letters, continuesIdentifier c = true) →
      StartsOutside continuesIdentifier rest →
      Complete (wordKind (first :: letters)) (first :: letters) rest
  | symbol (symbol : Symbol) {rest : List Char} :
      EndsSymbol symbol.spelling.toList rest →
      Complete (.symbol symbol) symbol.spelling.toList rest

inductive Opens : List Char → Opening → Prop
  | comment (text : List Char) : Opens ('/' :: '/' :: text) .comment
  | token {kind : Kind} {lexeme rest : List Char} :
      Complete kind lexeme rest → Opens (lexeme ++ rest) (.token kind lexeme.length)
  | openString {body : List Char} : (∀ c ∈ body, c ≠ '"') → Opens ('"' :: body) .openString
  | nothing {first : Char} (rest : List Char) :
      leadOf first = .mark → (∀ symbol : Symbol, [first] ≠ symbol.spelling.toList) →
      Opens (first :: rest) .nothing

theorem spelling_not_blank (symbol : Symbol) :
    ∀ c ∈ symbol.spelling.toList, Text.isBlank c = false := by
  have noBlank : symbol.spelling.toList.any Text.isBlank = false := by cases symbol <;> decide
  simpa using noBlank

theorem isBlank_eq_false_of_continuesIdentifier {c : Char}
    (continues : continuesIdentifier c = true) : Text.isBlank c = false :=
  Text.outside_disjoint Text.isBlank continuesIdentifier
    (fun _ => continuesIdentifier_eq_false_of_isBlank) continues

theorem isBlank_eq_false_of_isDigit {c : Char} (digit : c.isDigit = true) :
    Text.isBlank c = false :=
  isBlank_eq_false_of_continuesIdentifier (continuesIdentifier_of_isDigit digit)

theorem Complete.head_not_blank {kind : Kind} {lexeme rest : List Char}
    (complete : Complete kind lexeme rest) :
    ∃ first more, lexeme = first :: more ∧ Text.isBlank first = false := by
  have digitsHead {digits : List Char} (nonempty : digits ≠ [])
      (areDigits : ∀ c ∈ digits, c.isDigit = true) (more : List Char) :
      ∃ first later, digits ++ more = first :: later ∧ Text.isBlank first = false := by
    cases digits with
    | nil => exact absurd rfl nonempty
    | cons first digits =>
        have digit := areDigits first List.mem_cons_self
        exact ⟨first, digits ++ more, rfl, isBlank_eq_false_of_isDigit digit⟩
  cases complete with
  | string furtherQuotes unquoted boundary => exact ⟨_, _, rfl, by decide⟩
  | whole nonempty areDigits boundary noFraction =>
      simpa using digitsHead nonempty areDigits []
  | fraction nonempty areDigits placesNonempty arePlaces boundary =>
      exact digitsHead nonempty areDigits _
  | word starts continued boundary =>
      exact ⟨_, _, rfl, isBlank_eq_false_of_continuesIdentifier
        (continuesIdentifier_of_startsIdentifier starts)⟩
  | symbol symbol boundary =>
      have notBlank := spelling_not_blank symbol
      obtain ⟨first, alone | ⟨pair, -⟩⟩ := symbol.spelling_cases
      · rw [alone] at notBlank ⊢
        exact ⟨first, [], rfl, notBlank first List.mem_cons_self⟩
      · rw [pair] at notBlank ⊢
        exact ⟨first, ['='], rfl, notBlank first List.mem_cons_self⟩

/-! ### Existence -/

theorem exists_opens_quote (afterQuote : List Char) :
    ∃ opening, Opens ('"' :: afterQuote) opening := by
  obtain ⟨body, later, rfl, unquoted, laterStart⟩ := Text.exists_run (· ≠ '"') afterQuote
  simp only [decide_eq_true_eq] at unquoted
  cases later with
  | nil => exact ⟨_, by simpa using Opens.openString unquoted⟩
  | cons quote later =>
      have quoteEq : quote = '"' := by
        simpa using Text.startsOutside_cons.mp laterStart
      obtain ⟨quotes, rest, rfl, quoted, restStart⟩ := Text.exists_run (· = '"') later
      simp only [decide_eq_true_eq] at quoted
      have quotesEq : quotes = List.replicate quotes.length '"' :=
        List.eq_replicate_of_mem quoted
      have boundary : rest.head? ≠ some '"' := by
        cases rest with
        | nil => simp
        | cons next rest => simpa using Text.startsOutside_cons.mp restStart
      have complete := Complete.string quotes.length unquoted boundary
      rw [← quotesEq] at complete
      exact ⟨_, by simpa [quoteEq] using Opens.token complete⟩

theorem exists_opens_digit {first : Char} (digit : first.isDigit = true)
    (rest : List Char) : ∃ opening, Opens (first :: rest) opening := by
  obtain ⟨more, later, rfl, moreDigits, laterStart⟩ := Text.exists_run Char.isDigit rest
  have digits : ∀ c ∈ first :: more, c.isDigit = true := by
    simpa [digit] using moreDigits
  by_cases point : ∃ next after, later = '.' :: next :: after ∧ next.isDigit = true
  · obtain ⟨next, after, rfl, nextDigit⟩ := point
    obtain ⟨places, rest, split, placesDigits, restStart⟩ :=
      Text.exists_run Char.isDigit (next :: after)
    have nonempty : places ≠ [] := by
      rintro rfl
      rw [List.nil_append] at split
      subst split
      exact absurd nextDigit (by simp [Text.startsOutside_cons.mp restStart])
    rw [split]
    exact ⟨_, by
      simpa using Opens.token (.fraction (List.cons_ne_nil first more) digits nonempty
        placesDigits restStart)⟩
  · have noFraction : ∀ after, later = '.' :: after → StartsOutside Char.isDigit after := by
      rintro after rfl next rest rfl
      cases nextDigit : next.isDigit with
      | false => rfl
      | true => exact absurd ⟨next, rest, rfl, nextDigit⟩ point
    exact ⟨_, .token (.whole (List.cons_ne_nil first more) digits laterStart noFraction)⟩

theorem exists_opens_letter {first : Char} (starts : startsIdentifier first = true)
    (rest : List Char) : ∃ opening, Opens (first :: rest) opening := by
  obtain ⟨letters, later, rfl, continued, laterStart⟩ :=
    Text.exists_run continuesIdentifier rest
  exact ⟨_, .token (.word starts continued laterStart)⟩

theorem Complete.of_spelling {symbol : Symbol} {lexeme rest : List Char}
    (spelled : symbol.spelling.toList = lexeme) (boundary : EndsSymbol lexeme rest) :
    Complete (.symbol symbol) lexeme rest := by
  subst spelled
  exact .symbol symbol boundary

theorem not_spelled_of_long {text : List Char} (long : 2 < text.length) :
    text ≠ commentMark.toList ∧ ∀ symbol : Symbol, text ≠ symbol.spelling.toList := by
  constructor
  · rintro rfl
    exact absurd long (by decide)
  · rintro symbol rfl
    obtain ⟨start, alone | ⟨two, -⟩⟩ := symbol.spelling_cases
    · rw [alone] at long
      exact absurd long (by simp)
    · rw [two] at long
      exact absurd long (by simp)

theorem exists_opens_mark {first : Char} (mark : leadOf first = .mark)
    (rest : List Char) : ∃ opening, Opens (first :: rest) opening := by
  by_cases single : ∃ symbol : Symbol, symbol.spelling.toList = [first]
  · obtain ⟨symbol, spelled⟩ := single
    cases rest with
    | nil =>
        refine ⟨_, .token (.of_spelling spelled ?_)⟩
        intro next after impossible
        cases impossible
    | cons next after =>
        by_cases comment : [first, next] = commentMark.toList
        · obtain ⟨rfl, rfl⟩ : first = '/' ∧ next = '/' := by
            simpa [commentMark] using comment
          exact ⟨_, .comment after⟩
        · by_cases pair : ∃ longer : Symbol, longer.spelling.toList = [first, next]
          · obtain ⟨longer, longerSpelled⟩ := pair
            refine ⟨_, .token (.of_spelling longerSpelled ?_)⟩
            intro third later _
            exact not_spelled_of_long (Nat.lt_succ_self 2)
          · refine ⟨_, .token (.of_spelling spelled ?_)⟩
            intro c later split
            cases split
            exact ⟨comment, fun longer pairEq => pair ⟨longer, pairEq.symm⟩⟩
  · exact ⟨_, .nothing rest mark fun symbol spelled => single ⟨symbol, spelled.symm⟩⟩

/-- No text that is not empty escapes the rules. -/
theorem exists_opens (first : Char) (rest : List Char) :
    ∃ opening, Opens (first :: rest) opening := by
  rcases lead_cases first with rfl | digit | starts | mark
  · exact exists_opens_quote rest
  · exact exists_opens_digit digit rest
  · exact exists_opens_letter starts rest
  · exact exists_opens_mark mark rest

/-! ### The one-pass description -/

theorem numberLength_whole {digits rest : List Char}
    (areDigits : ∀ c ∈ digits, c.isDigit = true) (boundary : StartsOutside Char.isDigit rest)
    (noFraction : ∀ after, rest = '.' :: after → StartsOutside Char.isDigit after) :
    numberLength (digits ++ rest) = digits.length := by
  rw [numberLength, Text.takeWhile_run areDigits boundary,
    Text.dropWhile_run areDigits boundary]
  split
  · rename_i after
    have empty : after.takeWhile Char.isDigit = [] := by
      have none : ∀ c ∈ ([] : List Char), c.isDigit = true := by simp
      exact Text.takeWhile_run none (noFraction after rfl)
    rw [empty]
    rfl
  · rfl

theorem numberLength_fraction {digits places rest : List Char}
    (areDigits : ∀ c ∈ digits, c.isDigit = true) (nonempty : places ≠ [])
    (arePlaces : ∀ c ∈ places, c.isDigit = true) (boundary : StartsOutside Char.isDigit rest) :
    numberLength (digits ++ '.' :: places ++ rest) = digits.length + 1 + places.length := by
  have point : StartsOutside Char.isDigit ('.' :: (places ++ rest)) :=
    Text.startsOutside_cons.mpr (by decide)
  rw [List.append_assoc, List.cons_append, numberLength, Text.takeWhile_run areDigits point,
    Text.dropWhile_run areDigits point]
  simp [Text.takeWhile_run arePlaces boundary, nonempty]

theorem body_run {body : List Char} (unquoted : ∀ c ∈ body, c ≠ '"') (rest : List Char) :
    (body ++ '"' :: rest).takeWhile (· ≠ '"') = body ∧
      (body ++ '"' :: rest).dropWhile (· ≠ '"') = '"' :: rest := by
  have inside : ∀ c ∈ body, decide (c ≠ '"') = true := by simpa using unquoted
  have outside : StartsOutside (· ≠ '"') ('"' :: rest) :=
    Text.startsOutside_cons.mpr (by decide)
  exact ⟨Text.takeWhile_run inside outside, Text.dropWhile_run inside outside⟩

theorem quotes_run {rest : List Char} (furtherQuotes : Nat) (boundary : rest.head? ≠ some '"') :
    ('"' :: List.replicate furtherQuotes '"' ++ rest).takeWhile (· = '"') =
        '"' :: List.replicate furtherQuotes '"' ∧
      ('"' :: List.replicate furtherQuotes '"' ++ rest).dropWhile (· = '"') = rest := by
  have inside : ∀ c ∈ '"' :: List.replicate furtherQuotes '"', decide (c = '"') = true := by
    simp
  have outside : StartsOutside (· = '"') rest := by
    intro next after split
    rw [split] at boundary
    simpa using boundary
  exact ⟨Text.takeWhile_run inside outside, Text.dropWhile_run inside outside⟩

theorem stringOpening_open {body : List Char} (unquoted : ∀ c ∈ body, c ≠ '"') :
    stringOpening body = .openString := by
  have inside : ∀ c ∈ body, decide (c ≠ '"') = true := by simpa using unquoted
  have split := Text.dropWhile_run inside Text.startsOutside_nil
  rw [List.append_nil] at split
  rw [stringOpening, split]
  rfl

theorem stringOpening_closed {body rest : List Char} (furtherQuotes : Nat)
    (unquoted : ∀ c ∈ body, c ≠ '"') (boundary : rest.head? ≠ some '"') :
    stringOpening (body ++ '"' :: List.replicate furtherQuotes '"' ++ rest) =
      .token .string (body.length + furtherQuotes + 2) := by
  obtain ⟨bodyTaken, bodyDropped⟩ :=
    body_run unquoted (List.replicate furtherQuotes '"' ++ rest)
  rw [List.append_assoc, List.cons_append, stringOpening, bodyTaken, bodyDropped,
    ← List.cons_append, (quotes_run furtherQuotes boundary).1]
  simp only [List.isEmpty_cons, Bool.false_eq_true, if_false, List.length_cons,
    List.length_replicate]
  congr 1
  omega

theorem symbolOpening_symbol {symbol : Symbol} {first : Char} {more rest : List Char}
    (spelled : symbol.spelling.toList = first :: more)
    (boundary : ∀ next after, rest = next :: after →
      ∀ longer : Symbol, first :: more ++ [next] ≠ longer.spelling.toList) :
    symbolOpening first (more ++ rest) =
      .token (.symbol symbol) (first :: more).length := by
  obtain ⟨start, alone | ⟨pair, extensible, -⟩⟩ := symbol.spelling_cases
  · obtain ⟨rfl, rfl⟩ := List.cons.inj (alone.symm.trans spelled)
    have found := symbolIn?_spelling symbol
    rw [alone] at found
    unfold symbolOpening
    split
    · rename_i extended after extendedFound split
      exact absurd (eq_spelling_of_symbolIn? extendedFound)
        (boundary '=' after split extended)
    · rw [found]
      rfl
  · obtain ⟨rfl, rfl⟩ := List.cons.inj (pair.symm.trans spelled)
    have found := symbolIn?_extensible extensible
    rw [pair] at found
    unfold symbolOpening
    rw [found]
    rfl

theorem symbolOpening_nothing {first : Char} (rest : List Char)
    (unspelled : ∀ symbol : Symbol, [first] ≠ symbol.spelling.toList) :
    symbolOpening first rest = .nothing := by
  have single : symbolIn? Symbol.all [first] = none := by
    cases found : symbolIn? Symbol.all [first] with
    | none => rfl
    | some symbol => exact absurd (eq_spelling_of_symbolIn? found) (unspelled symbol)
  unfold symbolOpening
  split
  · rename_i extended after extendedFound
    obtain ⟨short, shortSpelled⟩ :=
      Symbol.exists_single (eq_spelling_of_symbolIn? extendedFound).symm
    exact absurd shortSpelled.symm (unspelled short)
  · rw [single]

theorem onePassOpening_quote (rest : List Char) :
    onePassOpening ('"' :: rest) = stringOpening rest := by
  rfl

theorem onePassOpening_digit {first : Char} (digit : first.isDigit = true)
    (rest : List Char) :
    onePassOpening (first :: rest) = .token .number (numberLength (first :: rest)) := by
  have notSlash : first ≠ '/' := Text.ne_of_class digit rfl
  have notQuote : first ≠ '"' := Text.ne_of_class digit rfl
  simp [onePassOpening, notSlash, notQuote, digit]

theorem onePassOpening_letter {first : Char} (starts : startsIdentifier first = true)
    (rest : List Char) :
    onePassOpening (first :: rest) =
      .token (wordKind ((first :: rest).takeWhile continuesIdentifier))
        ((first :: rest).takeWhile continuesIdentifier).length := by
  have notSlash : first ≠ '/' := Text.ne_of_class starts rfl
  have notQuote : first ≠ '"' := Text.ne_of_class starts rfl
  have notDigit := isDigit_eq_false_of_startsIdentifier starts
  rw [onePassOpening, if_neg (by simp [notSlash]), if_neg notQuote, if_neg (by simp [notDigit]),
    if_pos starts]

theorem onePassOpening_mark {first : Char} {rest : List Char} (mark : leadOf first = .mark)
    (notComment : first = '/' → rest.head? ≠ some '/') :
    onePassOpening (first :: rest) = symbolOpening first rest := by
  obtain ⟨notQuote, notDigit, notLetter⟩ := leadOf_eq_mark.mp mark
  rw [onePassOpening, if_neg (by simpa using notComment), if_neg notQuote,
    if_neg (by simp [notDigit]), if_neg (by simp [notLetter])]

theorem onePassOpening_number {digits rest : List Char} (nonempty : digits ≠ [])
    (areDigits : ∀ c ∈ digits, c.isDigit = true) :
    onePassOpening (digits ++ rest) = .token .number (numberLength (digits ++ rest)) := by
  cases digits with
  | nil => exact absurd rfl nonempty
  | cons first digits => exact onePassOpening_digit (areDigits first List.mem_cons_self) _

theorem onePassOpening_symbol (symbol : Symbol) {rest : List Char}
    (boundary : EndsSymbol symbol.spelling.toList rest) :
    onePassOpening (symbol.spelling.toList ++ rest) =
      .token (.symbol symbol) symbol.spelling.toList.length := by
  have longest (next : Char) (after : List Char) (split : rest = next :: after) :=
    (boundary next after split).2
  obtain ⟨first, alone | ⟨pair, -⟩⟩ := symbol.spelling_cases
  · rw [alone] at boundary longest ⊢
    have notComment : first = '/' → rest.head? ≠ some '/' := by
      rintro rfl
      cases rest with
      | nil => simp
      | cons next after => simpa [commentMark] using (boundary next after rfl).1
    rw [List.singleton_append, onePassOpening_mark (leadOf_of_symbol alone) notComment]
    exact symbolOpening_symbol alone longest
  · rw [pair] at longest ⊢
    have notComment : first = '/' → ('=' :: rest).head? ≠ some '/' := by simp
    rw [List.cons_append, List.singleton_append,
      onePassOpening_mark (leadOf_of_symbol pair) notComment]
    exact symbolOpening_symbol pair longest

theorem onePassOpening_complete {kind : Kind} {lexeme rest : List Char}
    (complete : Complete kind lexeme rest) :
    onePassOpening (lexeme ++ rest) = .token kind lexeme.length := by
  cases complete with
  | string furtherQuotes unquoted boundary =>
      rw [List.cons_append, List.cons_append, onePassOpening_quote,
        stringOpening_closed furtherQuotes unquoted boundary]
      simp only [List.length_cons, List.length_append, List.length_replicate]
      rfl
  | whole nonempty areDigits boundary noFraction =>
      rw [onePassOpening_number nonempty areDigits,
        numberLength_whole areDigits boundary noFraction]
  | fraction nonempty areDigits placesNonempty arePlaces boundary =>
      have length := numberLength_fraction areDigits placesNonempty arePlaces boundary
      rw [List.append_assoc] at length ⊢
      rw [onePassOpening_number nonempty areDigits, length, List.length_append,
        List.length_cons, Nat.add_assoc, Nat.add_comm 1]
  | @word first letters _ starts continued boundary =>
      have inside : ∀ c ∈ first :: letters, continuesIdentifier c = true := by
        simpa [continuesIdentifier_of_startsIdentifier starts] using continued
      have run := Text.takeWhile_run inside boundary
      rw [List.cons_append] at run ⊢
      rw [onePassOpening_letter starts, run]
  | symbol symbol boundary => exact onePassOpening_symbol symbol boundary

theorem onePassOpening_eq_of_opens {text : List Char} {opening : Opening}
    (opens : Opens text opening) : onePassOpening text = opening := by
  cases opens with
  | comment text => simp [onePassOpening]
  | token complete => exact onePassOpening_complete complete
  | openString unquoted =>
      rw [onePassOpening_quote]
      exact stringOpening_open unquoted
  | @nothing first rest mark unspelled =>
      have notComment : first = '/' → rest.head? ≠ some '/' := by
        rintro rfl
        exact absurd (by decide) (unspelled .slash)
      rw [onePassOpening_mark mark notComment]
      exact symbolOpening_nothing rest unspelled

end LoxLexer.Lexeme
