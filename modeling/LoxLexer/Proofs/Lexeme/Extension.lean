/- What more characters make of a candidate.  One that has no class and does not start with a
quote never gets one by growing, unless it is a number that lacks the digits after its point. -/
import LoxLexer.Proofs.Lexeme.Growth
import LoxLexer.Proofs.Lexeme.Spaced

namespace LoxLexer.Lexeme

open Text (StartsOutside)

/-! ### Numbers -/

/-- The front lacks the digits after its point, and they follow. -/
def CompletesNumber (front more : List Char) : Prop :=
  (∃ digits, digits ≠ [] ∧ (∀ c ∈ digits, c.isDigit = true) ∧ front = digits ++ ['.']) ∧
    more ≠ [] ∧ ∀ c ∈ more, c.isDigit = true

theorem isNumber_of_run {front digits : List Char} (nonempty : front ≠ [])
    (areDigits : ∀ c ∈ digits, c.isDigit = true) (inside : front <+: digits) :
    isNumber front = true := by
  have frontDigits : ∀ c ∈ front, c.isDigit = true := by
    intro c member
    exact areDigits c (inside.subset member)
  have shape := isNumber_append nonempty frontDigits Text.startsOutside_nil
  rwa [List.append_nil] at shape

theorem isNumber_of_places {digits places : List Char} (nonempty : digits ≠ [])
    (areDigits : ∀ c ∈ digits, c.isDigit = true) (placesNonempty : places ≠ [])
    (arePlaces : ∀ c ∈ places, c.isDigit = true) : isNumber (digits ++ '.' :: places) = true := by
  have point : StartsOutside Char.isDigit ('.' :: places) :=
    Text.startsOutside_cons.mpr (by decide)
  rw [isNumber_append nonempty areDigits point, isFraction_point,
    List.isEmpty_eq_false_iff.mpr placesNonempty, List.all_eq_true.mpr arePlaces]
  rfl

/-- A number is cut into a number and what follows it, or right behind its point. -/
theorem isNumber_front {front more : List Char} (frontNonempty : front ≠ [])
    (moreNonempty : more ≠ []) (number : isNumber (front ++ more) = true) :
    isNumber front = true ∨ CompletesNumber front more := by
  obtain ⟨digits, nonempty, areDigits, whole | ⟨places, split, placesNonempty, arePlaces⟩⟩ :=
    isNumber_cases number
  · exact .inl (isNumber_of_run frontNonempty areDigits ⟨more, whole⟩)
  · rcases List.append_eq_append_iff.mp split with
      ⟨left, digitsSplit, -⟩ | ⟨taken, frontSplit, rest⟩
    · exact .inl (isNumber_of_run frontNonempty areDigits ⟨left, digitsSplit.symm⟩)
    · -- The front goes on behind the first run of digits, unless nothing is taken.
      match taken with
      | [] => exact .inl (isNumber_of_run frontNonempty areDigits ⟨[], by simp [frontSplit]⟩)
      | point :: taken =>
          obtain ⟨rfl, rfl⟩ := List.cons.inj rest
          by_cases bare : taken = []
          · subst bare
            exact .inr ⟨⟨digits, nonempty, areDigits, frontSplit⟩, moreNonempty, arePlaces⟩
          · have areTaken : ∀ c ∈ taken, c.isDigit = true := by
              intro c member
              exact arePlaces c (List.mem_append_left more member)
            rw [frontSplit]
            exact .inl (isNumber_of_places nonempty areDigits bare areTaken)

theorem CompletesNumber.classOf_eq {front more : List Char}
    (completes : CompletesNumber front more) :
    classOf front = .unmatched ∧ classOf (front ++ more) = .token .number := by
  obtain ⟨⟨digits, nonempty, areDigits, rfl⟩, moreNonempty, areMore⟩ := completes
  constructor
  · have bare := classOf_point nonempty areDigits []
    rwa [List.append_nil, isFraction_singleton] at bare
  · rw [classOf_point nonempty areDigits, isFraction_point, List.all_eq_true.mpr areMore,
      List.isEmpty_eq_false_iff.mpr moreNonempty]
    rfl

/-! ### Candidates without a class -/

section

variable {first : Char} {rest more : List Char}

theorem classOf_append_digit (digit : first.isDigit = true) (moreNonempty : more ≠ [])
    (unmatched : classOf (first :: rest) = .unmatched)
    (incomplete : ¬ CompletesNumber (first :: rest) more) :
    classOf (first :: rest ++ more) = .unmatched := by
  rw [classOf_digit digit] at unmatched
  rw [List.cons_append, classOf_digit digit, ← List.cons_append]
  split
  · rename_i number
    rcases isNumber_front (List.cons_ne_nil first rest) moreNonempty number with
      already | completes
    · rw [if_pos already] at unmatched
      cases unmatched
    · exact absurd completes incomplete
  · rfl

theorem classOf_append_letter (starts : startsIdentifier first = true)
    (unmatched : classOf (first :: rest) = .unmatched) (more : List Char) :
    classOf (first :: rest ++ more) = .unmatched := by
  rw [classOf_letter starts] at unmatched
  have ended : rest.all continuesIdentifier = false := by
    cases continued : rest.all continuesIdentifier with
    | false => rfl
    | true =>
        rw [if_pos continued] at unmatched
        cases unmatched
  rw [List.cons_append, classOf_letter starts, List.all_append, ended]
  rfl

theorem classOf_append_mark (mark : leadOf first = .mark) (moreNonempty : more ≠ [])
    (unmatched : classOf (first :: rest) = .unmatched) :
    classOf (first :: rest ++ more) = .unmatched := by
  by_cases single : ∃ symbol : Symbol, symbol.spelling.toList = [first]
  · obtain ⟨symbol, spelled⟩ := single
    have restNonempty : rest ≠ [] := by
      rintro rfl
      rw [← spelled, classOf_spelling] at unmatched
      cases unmatched
    have long : 2 < (first :: rest ++ more).length := by
      have restLength := List.length_pos_iff.mpr restNonempty
      have moreLength := List.length_pos_iff.mpr moreNonempty
      rw [List.length_append, List.length_cons]
      omega
    obtain ⟨notComment, unspelled⟩ := not_spelled_of_long long
    exact classOf_unspelled mark notComment unspelled
  · exact classOf_startless mark (fun symbol spelled => single ⟨symbol, spelled.symm⟩) _

end

/-! ### Candidates that start with a quote -/

theorem isString_append (body : List Char) {more : List Char} (moreNonempty : more ≠ []) :
    isString ('"' :: (body ++ more)) = true ↔
      more.getLast? = some '"' ∧ '\n' ∉ '"' :: (body ++ more) := by
  have oneLine : (body ++ more).all (· ≠ '\n') = true ↔ '\n' ∉ '"' :: (body ++ more) := by
    rw [List.all_eq_true, List.mem_cons, not_or, and_iff_right (by decide)]
    constructor
    · intro plain feed
      exact absurd (plain '\n' feed) (by decide)
    · intro plain c member
      exact decide_eq_true fun feed => plain (feed ▸ member)
  have sameLast : (body ++ more).getLast? = more.getLast? := by
    rw [List.getLast?_append, List.getLast?_eq_some_getLast moreNonempty, Option.some_or]
  rw [isString, Bool.and_eq_true, decide_eq_true_eq, sameLast, oneLine]

theorem classOf_append_quote {front more : List Char} (quoted : startsString front = true)
    (moreNonempty : more ≠ []) :
    classOf (front ++ more) =
      if more.getLast? = some '"' ∧ '\n' ∉ front ++ more then .token .string
      else .unmatched := by
  match front with
  | [] => cases quoted
  | first :: body =>
      obtain rfl : first = '"' := by simpa [startsString] using quoted
      rw [List.cons_append, classOf_quote]
      simp only [isString_append body moreNonempty]

/-! ### Extensions -/

/-- What a candidate tells about the classes of the candidates that start with it. -/
structure Extension (front more : List Char) : Prop where
  stops : startsString front = false → classOf front = .unmatched →
    ¬ CompletesNumber front more → classOf (front ++ more) = .unmatched
  completes : CompletesNumber front more →
    classOf front = .unmatched ∧ classOf (front ++ more) = .token .number
  closes : startsString front = true →
    ((∃ kind, classOf (front ++ more) = .token kind) ↔
      more.getLast? = some '"' ∧ '\n' ∉ front ++ more)
  string : startsString front = true →
    ∀ kind, classOf (front ++ more) = .token kind → kind = .string

theorem classOf_append_unmatched {front more : List Char} (moreNonempty : more ≠ [])
    (notString : startsString front = false) (frontNonempty : front ≠ [])
    (unmatched : classOf front = .unmatched) (incomplete : ¬ CompletesNumber front more) :
    classOf (front ++ more) = .unmatched := by
  obtain ⟨first, rest, rfl⟩ := List.exists_cons_of_ne_nil frontNonempty
  rcases lead_cases first with rfl | digit | starts | mark
  · cases notString
  · exact classOf_append_digit digit moreNonempty unmatched incomplete
  · exact classOf_append_letter starts unmatched more
  · exact classOf_append_mark mark moreNonempty unmatched

/-- Growth may end at the first candidate without a class.  Only a point after digits and an
open quote are worth a look at what follows. -/
theorem classes_of_extension {front more : List Char} (frontNonempty : front ≠ [])
    (moreNonempty : more ≠ []) : Extension front more := by
  constructor
  case stops =>
    intro notString unmatched incomplete
    exact classOf_append_unmatched moreNonempty notString frontNonempty unmatched incomplete
  case completes => exact CompletesNumber.classOf_eq
  case closes =>
    intro quoted
    rw [classOf_append_quote quoted moreNonempty]
    split
    · rename_i closed
      exact ⟨fun _ => closed, fun _ => ⟨.string, rfl⟩⟩
    · rename_i notClosed
      constructor
      · rintro ⟨kind, impossible⟩
        cases impossible
      · intro closed
        exact absurd closed notClosed
  case string =>
    intro quoted kind classified
    rw [classOf_append_quote quoted moreNonempty] at classified
    split at classified
    · exact (Class.token.inj classified).symm
    · cases classified

theorem classes_of_extension_point :
    let front := "12.".toList
    let more := "5x".toList
    front ≠ [] ∧ more ≠ [] ∧ Extension front more ∧ startsString front = false ∧
      classOf front = .unmatched ∧ ¬ CompletesNumber front more ∧
      classOf (front ++ more) = .unmatched ∧
      Extension "\"a".toList "\"b\"".toList ∧ startsString "\"a".toList = true ∧
      ∃ kind, classOf "\"a\"b\"".toList = .token kind := by
  intro front more
  have frontNonempty : front ≠ [] := by decide
  have moreNonempty : more ≠ [] := by decide
  have extension := classes_of_extension frontNonempty moreNonempty
  have incomplete : ¬ CompletesNumber front more := by
    rintro ⟨-, -, areDigits⟩
    exact absurd (areDigits 'x' (by decide)) (by decide)
  have quoted : Extension "\"a".toList "\"b\"".toList :=
    classes_of_extension (by decide) (by decide)
  exact ⟨frontNonempty, moreNonempty, extension, rfl, by decide, incomplete,
    extension.stops rfl (by decide) incomplete, quoted, rfl, (quoted.closes rfl).mpr (by decide)⟩

end LoxLexer.Lexeme
