/- Slices of a text between byte offsets. -/
import LoxLexer.Literal

namespace LoxLexer

namespace Text

theorem byteSize_append (before after : List Char) :
    byteSize (before ++ after) = byteSize before + byteSize after := by
  induction before with
  | nil => rw [List.nil_append, byteSize, Nat.zero_add]
  | cons c before ih => rw [List.cons_append, byteSize, byteSize, ih, Nat.add_assoc]

theorem cutAtByte?_byteSize (before after : List Char) :
    cutAtByte? (byteSize before) (before ++ after) = some (before, after) := by
  induction before with
  | nil => rw [byteSize, cutAtByte?, List.nil_append]
  | cons c before ih =>
      have positive := c.utf8Size_pos
      obtain ⟨offset, size⟩ : ∃ offset, byteSize (c :: before) = offset + 1 :=
        Nat.exists_eq_add_one.mpr (by rw [byteSize]; omega)
      have fits : c.utf8Size ≤ offset + 1 := by
        rw [← size, byteSize]
        exact Nat.le_add_right _ _
      have left : offset + 1 - c.utf8Size = byteSize before := by
        rw [← size, byteSize, Nat.add_sub_cancel_left]
      rw [size, List.cons_append, cutAtByte?, if_pos fits, left, ih]
      rfl

theorem cutAtByte?_eq_some_iff {offset : Nat} {text before after : List Char} :
    cutAtByte? offset text = some (before, after) ↔
      text = before ++ after ∧ byteSize before = offset := by
  constructor
  · intro cut
    induction text generalizing offset before with
    | nil =>
        cases offset with
        | zero =>
            cases cut
            exact ⟨rfl, rfl⟩
        | succ offset => cases cut
    | cons c rest ih =>
        cases offset with
        | zero =>
            cases cut
            exact ⟨rfl, rfl⟩
        | succ offset =>
            rw [cutAtByte?, Option.ite_none_right_eq_some, Option.map_eq_some_iff] at cut
            obtain ⟨fits, ⟨taken, left⟩, cutRest, same⟩ := cut
            cases same
            obtain ⟨rfl, size⟩ := ih cutRest
            refine ⟨rfl, ?_⟩
            rw [byteSize, size]
            omega
  · rintro ⟨rfl, rfl⟩
    exact cutAtByte?_byteSize before after

theorem byteSlice?_byteSize (before slice after : List Char) :
    byteSlice? (byteSize before) (byteSize before + byteSize slice) (before ++ slice ++ after) =
      some slice := by
  have last := cutAtByte?_byteSize (before ++ slice) after
  have first := cutAtByte?_byteSize before slice
  rw [byteSize_append] at last
  have ordered : (guard (byteSize before ≤ byteSize before + byteSize slice) : Option Unit) =
      some () :=
    if_pos (Nat.le_add_right _ _)
  rw [byteSlice?, ordered, last]
  simp only [first, Option.pure_def, Option.bind_eq_bind, Option.bind_some]

/-- A slice stands between two sizes of fronts of its text, and there is no other slice. -/
theorem byteSlice?_eq_some_iff {first last : Nat} {text slice : List Char} :
    byteSlice? first last text = some slice ↔
      ∃ before after, text = before ++ slice ++ after ∧ byteSize before = first ∧
        byteSize (before ++ slice) = last := by
  constructor
  · intro read
    obtain ⟨_, -, read⟩ := Option.bind_eq_some_iff.mp read
    obtain ⟨⟨front, after⟩, cutLast, read⟩ := Option.bind_eq_some_iff.mp read
    obtain ⟨⟨before, slice⟩, cutFirst, read⟩ := Option.bind_eq_some_iff.mp read
    cases read
    obtain ⟨rfl, size⟩ := cutAtByte?_eq_some_iff.mp cutLast
    obtain ⟨rfl, beforeSize⟩ := cutAtByte?_eq_some_iff.mp cutFirst
    exact ⟨before, after, rfl, beforeSize, size⟩
  · rintro ⟨before, after, rfl, rfl, rfl⟩
    rw [byteSize_append]
    exact byteSlice?_byteSize before slice after

end Text

theorem Literal.ofLexeme?_string (content : List Char) :
    Literal.ofLexeme? .string ('"' :: content ++ ['"']) = some (Literal.verbatim content) := by
  have size : Text.byteSize ('"' :: content ++ ['"']) = 1 + Text.byteSize content + 1 := by
    rw [Text.byteSize_append]
    rfl
  have slice := Text.byteSlice?_byteSize ['"'] content ['"']
  have quote : Text.byteSize ['"'] = 1 := rfl
  rw [quote, List.singleton_append] at slice
  have long : ¬ 1 + Text.byteSize content + 1 < 2 := by omega
  simp only [Literal.ofLexeme?, size, if_neg long, Nat.add_sub_cancel, slice, Option.map_some]

end LoxLexer
