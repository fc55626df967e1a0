/- Sentences after the longest lexeme.  A cutting may end a piece within the longest lexeme at the
start, or go beyond its end; in either case what follows that lexeme is a sentence too. -/
import LoxLexer.Grammar
import LoxLexer.Proofs.Lexeme.Opens

namespace LoxLexer.Grammar

open Lexeme (Complete leadOf startsIdentifier continuesIdentifier)

/-! ### First characters -/

theorem leadOf_of_isBlank {c : Char} (blank : Text.isBlank c = true) : leadOf c = .mark := by
  have outside := Lexeme.continuesIdentifier_eq_false_of_isBlank blank
  have notDigit : c.isDigit = false :=
    Text.outside_subclass Char.isDigit continuesIdentifier
      (fun _ => Lexeme.continuesIdentifier_of_isDigit) outside
  have notLetter : startsIdentifier c = false :=
    Text.outside_subclass startsIdentifier continuesIdentifier
      (fun _ => Lexeme.continuesIdentifier_of_startsIdentifier) outside
  exact Lexeme.leadOf_eq_mark.mpr ⟨Text.ne_of_class blank rfl, notDigit, notLetter⟩

theorem Piece.head_cases {text : List Char} (piece : Piece text) :
    ∃ first more, text = first :: more ∧
      (Text.isBlank first = true ∧ more = [] ∨
        leadOf first = .digit ∨ leadOf first = .letter ∨
        leadOf first = .mark ∧ Text.isBlank first = false ∧
          ∃ symbol : Symbol, symbol.spelling.toList = text) := by
  cases piece with
  | blank c blank => exact ⟨c, [], rfl, .inl ⟨blank, rfl⟩⟩
  | whole digits nonempty areDigits =>
      obtain ⟨first, more, rfl⟩ := List.exists_cons_of_ne_nil nonempty
      have digit := Lexeme.leadOf_of_isDigit (areDigits first List.mem_cons_self)
      exact ⟨first, more, rfl, .inr (.inl digit)⟩
  | fraction digits places nonempty areDigits placesNonempty arePlaces =>
      obtain ⟨first, more, rfl⟩ := List.exists_cons_of_ne_nil nonempty
      have digit := Lexeme.leadOf_of_isDigit (areDigits first List.mem_cons_self)
      exact ⟨first, _, rfl, .inr (.inl digit)⟩
  | word first rest starts continued =>
      exact ⟨first, rest, rfl, .inr (.inr (.inl (Lexeme.leadOf_of_startsIdentifier starts)))⟩
  | symbol symbol =>
      obtain ⟨first, more, spelled⟩ := symbol.exists_spelling
      have notBlank := Lexeme.spelling_not_blank symbol first (by rw [spelled]; simp)
      exact ⟨first, more, spelled,
        .inr (.inr (.inr ⟨Lexeme.leadOf_of_symbol spelled, notBlank, symbol, rfl⟩))⟩

/-! ### Runs at the front of a sentence -/

theorem dropWhile_cons_outside {inClass : Char → Bool} {first : Char} (rest : List Char)
    (outside : inClass first = false) : (first :: rest).dropWhile inClass = first :: rest := by
  rw [List.dropWhile_cons, outside]
  rfl

theorem spelling_outside (symbol : Symbol) :
    ∀ c ∈ symbol.spelling.toList, continuesIdentifier c = false := by
  have outside : symbol.spelling.toList.any continuesIdentifier = false := by
    cases symbol <;> decide
  simpa using outside

/-- Characters of a class that contains the digits, and of each word either all
characters or not the first one, may be dropped from the front of a sentence. -/
theorem Sentence.dropWhile {inClass : Char → Bool}
    (digits : ∀ c, c.isDigit = true → inClass c = true)
    (outside : ∀ c, continuesIdentifier c = false → inClass c = false)
    (words : (∀ c, startsIdentifier c = true → inClass c = false) ∨
      ∀ c, continuesIdentifier c = true → inClass c = true)
    {text : List Char} (sentence : Sentence text) : Sentence (text.dropWhile inClass) := by
  induction sentence with
  | empty => exact .empty
  | comment text =>
      rw [dropWhile_cons_outside _ (outside '/' (by decide))]
      exact .comment text
  | @piece text rest piece sentence ih =>
      cases piece with
      | blank c blank =>
          rw [List.singleton_append,
            dropWhile_cons_outside rest
              (outside c (Lexeme.continuesIdentifier_eq_false_of_isBlank blank))]
          exact .piece (.blank c blank) sentence
      | whole digitRun nonempty areDigits =>
          rw [List.dropWhile_append_of_pos fun c member => digits c (areDigits c member)]
          exact ih
      | fraction digitRun places nonempty areDigits placesNonempty arePlaces =>
          -- Only the digits before the point go; the rest is cut into a dot and a number.
          rw [List.append_assoc,
            List.dropWhile_append_of_pos fun c member => digits c (areDigits c member),
            List.cons_append, dropWhile_cons_outside _ (outside '.' (by decide))]
          exact .piece (.symbol .dot) (.piece (.whole places placesNonempty arePlaces) sentence)
      | word first letters starts continued =>
          rcases words with notFirst | all
          · rw [List.cons_append, dropWhile_cons_outside _ (notFirst first starts)]
            exact .piece (.word first letters starts continued) sentence
          · have inside : ∀ c ∈ first :: letters, inClass c = true := by
              intro c member
              apply all
              rcases List.mem_cons.mp member with rfl | later
              · exact Lexeme.continuesIdentifier_of_startsIdentifier starts
              · exact continued c later
            rw [List.dropWhile_append_of_pos inside]
            exact ih
      | symbol symbol =>
          have whole := Sentence.piece (.symbol symbol) sentence
          have marks := spelling_outside symbol
          obtain ⟨first, more, spelled⟩ := symbol.exists_spelling
          rw [spelled] at whole marks ⊢
          rw [List.cons_append,
            dropWhile_cons_outside _ (outside first (marks first List.mem_cons_self))]
          exact whole
  | string furtherQuotes unquoted boundary sentence ih =>
      rw [List.cons_append, List.cons_append,
        dropWhile_cons_outside _ (outside '"' (by decide))]
      exact .string furtherQuotes unquoted boundary sentence

theorem Sentence.afterDigits {digits rest : List Char}
    (areDigits : ∀ c ∈ digits, c.isDigit = true)
    (boundary : Text.StartsOutside Char.isDigit rest) (sentence : Sentence (digits ++ rest)) :
    Sentence rest := by
  have outside : ∀ c, continuesIdentifier c = false → c.isDigit = false := by
    intro c notContinued
    exact Text.outside_subclass Char.isDigit continuesIdentifier
      (fun _ => Lexeme.continuesIdentifier_of_isDigit) notContinued
  have dropped := Sentence.dropWhile (fun c digit => digit) outside
    (.inl fun c starts => Lexeme.isDigit_eq_false_of_startsIdentifier starts) sentence
  rwa [Text.dropWhile_run areDigits boundary] at dropped

theorem Sentence.afterWord {word rest : List Char}
    (continued : ∀ c ∈ word, continuesIdentifier c = true)
    (boundary : Text.StartsOutside continuesIdentifier rest)
    (sentence : Sentence (word ++ rest)) : Sentence rest := by
  have dropped := Sentence.dropWhile (fun c digit => Lexeme.continuesIdentifier_of_isDigit digit)
    (fun c outside => outside) (.inr fun c continues => continues) sentence
  rwa [Text.dropWhile_run continued boundary] at dropped

/-! ### Blanks, strings and symbols at the front of a sentence -/

theorem Sentence.afterBlank {c : Char} {rest : List Char} (blank : Text.isBlank c = true)
    (sentence : Sentence (c :: rest)) : Sentence rest := by
  have mark := leadOf_of_isBlank blank
  generalize split : c :: rest = text at sentence
  cases sentence with
  | empty => cases split
  | comment text =>
      obtain ⟨rfl, -⟩ := List.cons.inj split
      exact absurd blank (by decide)
  | @piece text later piece sentence =>
      obtain ⟨first, more, rfl, cases⟩ := piece.head_cases
      obtain ⟨rfl, rfl⟩ := List.cons.inj split
      rcases cases with ⟨-, rfl⟩ | digit | letter | ⟨-, notBlank, -⟩
      · exact sentence
      · rw [mark] at digit
        cases digit
      · rw [mark] at letter
        cases letter
      · rw [blank] at notBlank
        cases notBlank
  | string furtherQuotes unquoted boundary sentence =>
      obtain ⟨rfl, -⟩ := List.cons.inj split
      exact absurd blank (by decide)

theorem Sentence.afterQuote {afterQuote : List Char} (sentence : Sentence ('"' :: afterQuote)) :
    ∃ body furtherQuotes rest, (∀ c ∈ body, c ≠ '"') ∧ rest.head? ≠ some '"' ∧
      afterQuote = body ++ '"' :: List.replicate furtherQuotes '"' ++ rest ∧ Sentence rest := by
  generalize split : '"' :: afterQuote = text at sentence
  cases sentence with
  | empty => cases split
  | comment text => cases split
  | @piece text later piece sentence =>
      obtain ⟨first, more, rfl, cases⟩ := piece.head_cases
      obtain ⟨rfl, -⟩ := List.cons.inj split
      rcases cases with ⟨blank, -⟩ | digit | letter | ⟨mark, -⟩
      · exact absurd blank (by decide)
      · exact absurd digit (by decide)
      · exact absurd letter (by decide)
      · exact absurd mark (by decide)
  | string furtherQuotes unquoted boundary sentence =>
      exact ⟨_, furtherQuotes, _, unquoted, boundary, (List.cons.inj split).2, sentence⟩

/-- A string ends at the same place in every cutting. -/
theorem Sentence.afterString {body rest : List Char} {furtherQuotes : Nat}
    (unquoted : ∀ c ∈ body, c ≠ '"') (boundary : rest.head? ≠ some '"')
    (sentence : Sentence ('"' :: body ++ '"' :: List.replicate furtherQuotes '"' ++ rest)) :
    Sentence rest := by
  obtain ⟨otherBody, otherQuotes, otherRest, otherUnquoted, otherBoundary, split, otherSentence⟩ :=
    Sentence.afterQuote sentence
  have restOf (body rest : List Char) (quotes : Nat) (unquoted : ∀ c ∈ body, c ≠ '"')
      (boundary : rest.head? ≠ some '"') :
      ((body ++ '"' :: List.replicate quotes '"' ++ rest).dropWhile (· ≠ '"')).dropWhile
        (· = '"') = rest := by
    rw [List.append_assoc, List.cons_append,
      (Lexeme.body_run unquoted (List.replicate quotes '"' ++ rest)).2, ← List.cons_append]
    exact (Lexeme.quotes_run quotes boundary).2
  have same : rest = otherRest := by
    have sameText : body ++ '"' :: List.replicate furtherQuotes '"' ++ rest =
        otherBody ++ '"' :: List.replicate otherQuotes '"' ++ otherRest := split
    rw [← restOf body rest furtherQuotes unquoted boundary, sameText,
      restOf otherBody otherRest otherQuotes otherUnquoted otherBoundary]
  rw [same]
  exact otherSentence

theorem Sentence.afterMark {first : Char} {more : List Char} (mark : leadOf first = .mark)
    (notBlank : Text.isBlank first = false) (sentence : Sentence (first :: more)) :
    (∃ text, first :: more = '/' :: '/' :: text) ∨
      ∃ (symbol : Symbol) (rest : List Char),
        first :: more = symbol.spelling.toList ++ rest ∧ Sentence rest := by
  generalize split : first :: more = text at sentence
  cases sentence with
  | empty => cases split
  | comment text => exact .inl ⟨text, rfl⟩
  | @piece text rest piece sentence =>
      obtain ⟨head, later, rfl, cases⟩ := piece.head_cases
      obtain ⟨rfl, -⟩ := List.cons.inj split
      rcases cases with ⟨blank, -⟩ | digit | letter | ⟨-, -, symbol, spelled⟩
      · rw [blank] at notBlank
        cases notBlank
      · rw [mark] at digit
        cases digit
      · rw [mark] at letter
        cases letter
      · exact .inr ⟨symbol, rest, by rw [spelled], sentence⟩
  | string furtherQuotes unquoted boundary sentence =>
      obtain ⟨rfl, -⟩ := List.cons.inj split
      exact absurd mark (by decide)

theorem Sentence.afterEqual {rest : List Char} (sentence : Sentence ('=' :: rest)) :
    Sentence rest := by
  rcases Sentence.afterMark (by decide) (by decide) sentence with
    ⟨text, split⟩ | ⟨symbol, later, split, sentence⟩
  · cases split
  · obtain ⟨first, alone | ⟨pair, -⟩⟩ := symbol.spelling_cases
    · rw [alone] at split
      have sameRest : rest = later := (List.cons.inj split).2
      rw [sameRest]
      exact sentence
    · rw [pair] at split
      have sameRest : rest = '=' :: later := (List.cons.inj split).2
      rw [sameRest]
      exact .piece (.symbol .equal) sentence

/-- After the longest symbol a sentence goes on, even if a cutting takes a shorter
one. -/
theorem Sentence.afterSymbol (symbol : Symbol) {rest : List Char}
    (boundary : Lexeme.EndsSymbol symbol.spelling.toList rest)
    (sentence : Sentence (symbol.spelling.toList ++ rest)) : Sentence rest := by
  have notBlank := Lexeme.spelling_not_blank symbol
  obtain ⟨first, alone | ⟨pair, -⟩⟩ := symbol.spelling_cases
  -- A cutting cannot take more than the longest symbol, by the boundary.
  · rw [alone] at boundary notBlank sentence
    rcases Sentence.afterMark (Lexeme.leadOf_of_symbol alone) (notBlank first (by simp)) sentence
      with ⟨text, split⟩ | ⟨cut, later, split, sentence⟩
    · obtain ⟨rfl, rfl⟩ := List.cons.inj split
      exact absurd rfl (boundary '/' text rfl).1
    · obtain ⟨start, cutAlone | ⟨cutPair, -⟩⟩ := cut.spelling_cases
      · rw [cutAlone] at split
        have sameRest : rest = later := (List.cons.inj split).2
        rw [sameRest]
        exact sentence
      · rw [cutPair] at split
        obtain ⟨rfl, sameRest⟩ : first = start ∧ rest = '=' :: later := List.cons.inj split
        exact absurd cutPair.symm ((boundary '=' later sameRest).2 cut)
  · rw [pair] at notBlank sentence
    rcases Sentence.afterMark (Lexeme.leadOf_of_symbol pair) (notBlank first (by simp)) sentence
      with ⟨text, split⟩ | ⟨cut, later, split, sentence⟩
    · cases (List.cons.inj split).2
    · obtain ⟨start, cutAlone | ⟨cutPair, -⟩⟩ := cut.spelling_cases
      -- The cutting takes the first character alone, and the equals sign is left over.
      · rw [cutAlone] at split
        have sameRest : '=' :: rest = later := (List.cons.inj split).2
        rw [← sameRest] at sentence
        exact sentence.afterEqual
      · rw [cutPair] at split
        have sameRest : '=' :: rest = '=' :: later := (List.cons.inj split).2
        rw [(List.cons.inj sameRest).2]
        exact sentence

theorem Sentence.afterPoint {rest : List Char} (sentence : Sentence ('.' :: rest)) :
    Sentence rest := by
  have longest : Lexeme.EndsSymbol Symbol.dot.spelling.toList rest := by
    intro next after _
    constructor
    · intro same
      cases same
    · intro longer same
      cases longer <;> cases same
  exact sentence.afterSymbol .dot longest

/-- After the longest lexeme of a sentence comes a sentence, however it is cut. -/
theorem Sentence.afterComplete {kind : Kind} {lexeme rest : List Char}
    (complete : Complete kind lexeme rest) (sentence : Sentence (lexeme ++ rest)) :
    Sentence rest := by
  cases complete with
  | string furtherQuotes unquoted boundary => exact sentence.afterString unquoted boundary
  | whole nonempty areDigits boundary noFraction => exact sentence.afterDigits areDigits boundary
  | @fraction digits places _ nonempty areDigits placesNonempty arePlaces boundary =>
      have point : Text.StartsOutside Char.isDigit ('.' :: (places ++ rest)) :=
        Text.startsOutside_cons.mpr (by decide)
      rw [List.append_assoc] at sentence
      have fromPoint : Sentence ('.' :: (places ++ rest)) := sentence.afterDigits areDigits point
      exact fromPoint.afterPoint.afterDigits arePlaces boundary
  | @word first letters _ starts continued boundary =>
      have inside : ∀ c ∈ first :: letters, continuesIdentifier c = true := by
        simpa [Lexeme.continuesIdentifier_of_startsIdentifier starts] using continued
      exact sentence.afterWord inside boundary
  | symbol symbol boundary => exact sentence.afterSymbol symbol boundary

end LoxLexer.Grammar
