/- Segments: what stands between the line feeds of a text, without line ends.  Joining two texts
by a line feed joins their segments, which does not hold of their lines. -/
import LoxLexer.Proofs.Text.Lines

namespace LoxLexer.Text

def segments (text : List Char) : List (List Char) :=
  (text.splitOn '\n').map dropReturn

theorem segments_joined (first second : List Char) :
    segments (first ++ '\n' :: second) = segments first ++ segments second := by
  unfold segments
  rw [List.splitOn_eq_splitOnP, List.splitOn_eq_splitOnP, List.splitOn_eq_splitOnP,
    List.splitOnP_append_cons first second (by decide), List.map_append]

theorem segments_length (text : List Char) :
    (segments text).length = text.count '\n' + 1 := by
  rw [segments, List.length_map]
  induction text with
  | nil => rfl
  | cons c text ih =>
      rw [List.splitOn_cons_eq_if_modifyHead, List.count_cons]
      split
      · rw [List.length_cons, ih]
      · rw [List.length_modifyHead, ih, Nat.add_zero]

/-! ### Empty lines at the end -/

theorem dropTrailingEmpty_append {later : List (List Char)}
    (kept : dropTrailingEmpty later ≠ []) (lines : List (List Char)) :
    dropTrailingEmpty (lines ++ later) = lines ++ dropTrailingEmpty later := by
  induction lines with
  | nil => rfl
  | cons line lines ih =>
      rw [List.cons_append, dropTrailingEmpty_cons, ih]
      simp [kept]

theorem exists_append_dropTrailingEmpty (lines : List (List Char)) :
    ∃ count, lines = dropTrailingEmpty lines ++ List.replicate count [] := by
  induction lines with
  | nil => exact ⟨0, rfl⟩
  | cons line later ih =>
      obtain ⟨count, split⟩ := ih
      rw [dropTrailingEmpty_cons]
      by_cases dropped : line.isEmpty && (dropTrailingEmpty later).isEmpty
      · rw [if_pos dropped]
        simp only [Bool.and_eq_true, List.isEmpty_iff] at dropped
        rw [dropped.2, List.nil_append] at split
        exact ⟨count + 1, by rw [dropped.1, split]; rfl⟩
      · rw [if_neg dropped]
        exact ⟨count, congrArg (line :: ·) split⟩

/-- The lines of a text are its segments without the empty ones at the end. -/
theorem exists_segments_eq (text : List Char) :
    ∃ count, segments text = lines text ++ List.replicate count [] := by
  cases text with
  | nil => exact ⟨0, rfl⟩
  | cons c text => exact exists_append_dropTrailingEmpty (segments (c :: text))

theorem lines_eq {text : List Char} (nonempty : text ≠ []) :
    lines text = dropTrailingEmpty (segments text) := by
  rw [lines, if_neg (by simpa using nonempty), segments]

end LoxLexer.Text
