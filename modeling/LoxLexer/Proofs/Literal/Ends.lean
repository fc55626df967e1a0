/- What is cut from the ends of a text that is read as a string: one byte each, which must be a
character by itself. -/
import LoxLexer.Proofs.Text.Bytes

namespace LoxLexer

/-! ### Sizes -/

theorem Text.byteSize_eq_utf8ByteSize (text : List Char) :
    Text.byteSize text = (String.ofList text).utf8ByteSize := by
  induction text with
  | nil => rfl
  | cons c rest ih =>
      rw [Text.byteSize, ih, String.ofList_cons, String.utf8ByteSize_append,
        String.utf8ByteSize_singleton]

theorem Text.utf8Size_eq_one_iff {c : Char} : c.utf8Size = 1 ↔ c.toNat < 128 := by
  rw [Char.utf8Size_eq_one_iff, UInt32.le_iff_toNat_le]
  exact Nat.lt_succ_iff.symm

theorem Text.byteSize_eq_one_iff {text : List Char} :
    Text.byteSize text = 1 ↔ ∃ c, text = [c] ∧ c.toNat < 128 := by
  constructor
  · intro size
    match text with
    | [] => cases size
    | [c] => exact ⟨c, rfl, Text.utf8Size_eq_one_iff.mp size⟩
    | c :: next :: rest =>
        have first := c.utf8Size_pos
        have second := next.utf8Size_pos
        simp only [Text.byteSize] at size
        omega
  · rintro ⟨c, rfl, ascii⟩
    exact Text.utf8Size_eq_one_iff.mpr ascii

namespace Literal

variable {lexeme : List Char}

theorem ofLexeme?_string_of_short (short : Text.byteSize lexeme ≤ 1) :
    ofLexeme? .string lexeme = some (verbatim lexeme) := by
  have below : Text.byteSize lexeme < 2 := Nat.lt_succ_of_le short
  simp only [ofLexeme?, if_pos below]

/-- There is a literal where one ASCII character can be left out at each end. -/
theorem ofLexeme?_string_eq_some_iff (long : 2 ≤ Text.byteSize lexeme) {literal : Literal} :
    ofLexeme? .string lexeme = some literal ↔
      ∃ first content last, lexeme = first :: content ++ [last] ∧ first.toNat < 128 ∧
        last.toNat < 128 ∧ literal = verbatim content := by
  have notShort : ¬ Text.byteSize lexeme < 2 := Nat.not_lt_of_le long
  simp only [ofLexeme?, if_neg notShort, Option.map_eq_some_iff, Text.byteSlice?_eq_some_iff]
  constructor
  · rintro ⟨content, ⟨before, after, rfl, beforeSize, size⟩, rfl⟩
    -- One byte stands before the slice, and one is left behind it.
    have afterSize : Text.byteSize after = 1 := by
      have total := Text.byteSize_append (before ++ content) after
      omega
    obtain ⟨first, rfl, firstAscii⟩ := Text.byteSize_eq_one_iff.mp beforeSize
    obtain ⟨last, rfl, lastAscii⟩ := Text.byteSize_eq_one_iff.mp afterSize
    exact ⟨first, content, last, rfl, firstAscii, lastAscii, rfl⟩
  · rintro ⟨first, content, last, rfl, firstAscii, lastAscii, rfl⟩
    have firstSize := Text.byteSize_eq_one_iff.mpr ⟨first, rfl, firstAscii⟩
    have lastSize := Text.byteSize_eq_one_iff.mpr ⟨last, rfl, lastAscii⟩
    have total := Text.byteSize_append (first :: content) [last]
    refine ⟨content, ⟨[first], [last], rfl, firstSize, ?_⟩, rfl⟩
    rw [total, lastSize, Nat.add_sub_cancel]
    rfl

theorem ofLexeme?_string_eq_none_iff (long : 2 ≤ Text.byteSize lexeme) :
    ofLexeme? .string lexeme = none ↔
      ∃ c, 128 ≤ c.toNat ∧ (lexeme.head? = some c ∨ lexeme.getLast? = some c) := by
  constructor
  · intro missing
    match lexeme with
    | [] => cases long
    | first :: rest =>
        by_cases firstAscii : first.toNat < 128
        · rcases List.eq_nil_or_concat rest with rfl | ⟨content, last, rfl⟩
          · -- One ASCII character has one byte only.
            rw [Text.byteSize_eq_one_iff.mpr ⟨first, rfl, firstAscii⟩] at long
            omega
          · rw [List.concat_eq_append] at missing long ⊢
            by_cases lastAscii : last.toNat < 128
            · have read := (ofLexeme?_string_eq_some_iff long).mpr
                ⟨first, content, last, rfl, firstAscii, lastAscii, rfl⟩
              rw [missing] at read
              cases read
            · refine ⟨last, Nat.le_of_not_lt lastAscii, .inr ?_⟩
              rw [← List.cons_append, List.getLast?_concat]
        · exact ⟨first, Nat.le_of_not_lt firstAscii, .inl rfl⟩
  · rintro ⟨c, notAscii, atEnd⟩
    cases read : ofLexeme? .string lexeme with
    | none => rfl
    | some literal =>
        obtain ⟨first, content, last, rfl, firstAscii, lastAscii, -⟩ :=
          (ofLexeme?_string_eq_some_iff long).mp read
        rcases atEnd with isFirst | isLast
        · obtain rfl := Option.some.inj isFirst
          omega
        · rw [List.getLast?_concat] at isLast
          obtain rfl := Option.some.inj isLast
          omega

/-- What a text stands for as a string, by the bytes of its UTF-8 form. -/
structure CutsEnds (lexeme : String) : Prop where
  short : lexeme.utf8ByteSize ≤ 1 → ofLexeme? .string lexeme.toList = some (.text lexeme)
  fails : 2 ≤ lexeme.utf8ByteSize →
    (ofLexeme? .string lexeme.toList = none ↔
      ∃ c, 128 ≤ c.toNat ∧ (lexeme.toList.head? = some c ∨ lexeme.toList.getLast? = some c))
  inner : 2 ≤ lexeme.utf8ByteSize → ofLexeme? .string lexeme.toList ≠ none →
    ∃ first content last, lexeme.toList = first :: content ++ [last] ∧
      ofLexeme? .string lexeme.toList = some (.text (String.ofList content))

/-- Any text can be asked for its literal as a string.  The characters at its ends need not
be quotes, but only ASCII characters can be cut off. -/
theorem string_cuts_ends (lexeme : String) : CutsEnds lexeme := by
  have size : Text.byteSize lexeme.toList = lexeme.utf8ByteSize := by
    rw [Text.byteSize_eq_utf8ByteSize, String.ofList_toList]
  constructor
  case short =>
    intro short
    rw [ofLexeme?_string_of_short (by omega), verbatim, String.ofList_toList]
  case fails =>
    intro long
    exact ofLexeme?_string_eq_none_iff (by omega)
  case inner =>
    intro long present
    obtain ⟨literal, read⟩ := Option.ne_none_iff_exists'.mp present
    obtain ⟨first, content, last, split, -, -, rfl⟩ :=
      (ofLexeme?_string_eq_some_iff (by omega)).mp read
    exact ⟨first, content, last, split, read⟩

example : ofLexeme? .string "\"a€".toList = none := rfl

end Literal

end LoxLexer
