/- Blanks at the ends of a text, which are cut away with no other character. -/
import LoxLexer.Proofs.Text.Run
import LoxLexer.Text.Blank

namespace LoxLexer.Text

theorem mem_of_mem_trimStart {text : List Char} {c : Char} (member : c ∈ trimStart text) :
    c ∈ text :=
  (List.dropWhile_suffix isBlank).subset member

theorem exists_eq_trimEnd_append (text : List Char) :
    ∃ blanks, text = trimEnd text ++ blanks ∧ ∀ c ∈ blanks, isBlank c = true := by
  refine ⟨(text.reverse.takeWhile isBlank).reverse, ?_, ?_⟩
  · rw [trimEnd, ← List.reverse_append, List.takeWhile_append_dropWhile, List.reverse_reverse]
  · intro c member
    exact List.all_eq_true.mp List.all_takeWhile c (List.mem_reverse.mp member)

theorem mem_of_mem_trimEnd {text : List Char} {c : Char} (member : c ∈ trimEnd text) :
    c ∈ text := by
  obtain ⟨blanks, split, -⟩ := exists_eq_trimEnd_append text
  rw [split]
  exact List.mem_append_left blanks member

section

variable {text : List Char} {index : Nat} {c : Char}

theorem getElem?_trimEnd (found : text[index]? = some c) (notBlank : isBlank c = false) :
    (trimEnd text)[index]? = some c := by
  obtain ⟨blanks, split, blank⟩ := exists_eq_trimEnd_append text
  rw [split] at found
  rcases Nat.lt_or_ge index (trimEnd text).length with inside | outside
  · rwa [List.getElem?_append_left inside] at found
  · rw [List.getElem?_append_right outside] at found
    exact absurd (blank c (List.mem_of_getElem? found)) (by rw [notBlank]; decide)

theorem indentation_le (found : text[index]? = some c) (notBlank : isBlank c = false) :
    indentation text ≤ index := by
  obtain ⟨blanks, rest, rfl, blank, outside⟩ := exists_run isBlank text
  rw [indentation, takeWhile_run blank outside]
  rcases Nat.lt_or_ge index blanks.length with inside | behind
  · rw [List.getElem?_append_left inside] at found
    exact absurd (blank c (List.mem_of_getElem? found)) (by rw [notBlank]; decide)
  · exact behind

theorem getElem?_trimStart (text : List Char) (index : Nat) :
    (trimStart text)[index]? = text[indentation text + index]? := by
  obtain ⟨blanks, rest, rfl, blank, outside⟩ := exists_run isBlank text
  rw [trimStart, indentation, takeWhile_run blank outside, dropWhile_run blank outside,
    List.getElem?_append_right (Nat.le_add_right _ _), Nat.add_sub_cancel_left]

/-- Where a character stands after the blanks at both ends are cut away. -/
theorem getElem?_trimmed (found : text[index]? = some c) (notBlank : isBlank c = false) :
    (trimEnd (trimStart text))[index - indentation text]? = some c := by
  apply getElem?_trimEnd _ notBlank
  rw [getElem?_trimStart, Nat.add_sub_cancel' (indentation_le found notBlank)]
  exact found

end

end LoxLexer.Text
