/- Places in a text, and texts in which one line is exchanged. -/
import LoxLexer.Proofs.Text.Segments

namespace LoxLexer.Text

/-! ### Places -/

def advance (place : Nat × Nat) (c : Char) : Nat × Nat :=
  if c = '\n' then (place.1 + 1, 0) else (place.1, place.2 + 1)

/-- The line and the column of the character that comes after a text. -/
def placeAfter (text : List Char) : Nat × Nat :=
  text.foldl advance (0, 0)

theorem foldl_advance {text : List Char} (oneLine : '\n' ∉ text) (place : Nat × Nat) :
    text.foldl advance place = (place.1, place.2 + text.length) := by
  induction text generalizing place with
  | nil => rfl
  | cons c text ih =>
      obtain ⟨notFeed, laterOneLine⟩ := not_or.mp (mt List.mem_cons.mpr oneLine)
      rw [List.foldl_cons, ih laterOneLine, advance, if_neg (Ne.symm notFeed), List.length_cons]
      simp only [Nat.add_assoc, Nat.add_comm 1]

theorem placeAfter_append {text : List Char} (oneLine : '\n' ∉ text) (before : List Char) :
    placeAfter (before ++ text) =
      ((placeAfter before).1, (placeAfter before).2 + text.length) := by
  rw [placeAfter, List.foldl_append, foldl_advance oneLine]
  rfl

/-! ### One of many segments -/

/-- What stands around a segment of a text does not depend on the segment. -/
theorem exists_around_segment {above : List (List Char)} (oneLine : ∀ line ∈ above, '\n' ∉ line)
    (below : List (List Char)) :
    ∃ before after, (∀ line, before.foldl advance (line, 0) = (line + above.length, 0)) ∧
      ∀ segment, ['\n'].intercalate (above ++ segment :: below) = before ++ segment ++ after := by
  induction above with
  | nil =>
      cases below with
      | nil =>
          refine ⟨[], [], fun line => rfl, ?_⟩
          intro segment
          rw [List.nil_append, List.intercalate_singleton, List.nil_append, List.append_nil]
      | cons next below =>
          refine ⟨[], '\n' :: ['\n'].intercalate (next :: below), fun line => rfl, ?_⟩
          intro segment
          rw [List.nil_append, List.intercalate_cons_cons, List.append_assoc]
          rfl
  | cons head above ih =>
      obtain ⟨headOneLine, laterOneLine⟩ := List.forall_mem_cons.mp oneLine
      obtain ⟨before, after, place, around⟩ := ih laterOneLine
      refine ⟨head ++ '\n' :: before, after, ?_, ?_⟩
      · intro line
        rw [List.foldl_append, foldl_advance headOneLine, List.foldl_cons, advance, if_pos rfl,
          place, List.length_cons, Nat.add_assoc, Nat.add_comm 1]
      · intro segment
        have someLater : above ++ segment :: below ≠ [] := by simp
        rw [List.cons_append, List.intercalate_cons_of_ne_nil someLater, around]
        simp only [List.append_assoc, List.cons_append, List.nil_append]

theorem exists_segment_end (segment : List Char) :
    ∃ lineEnd, segment = dropReturn segment ++ lineEnd ∧
      ∀ line, (line.getLast? = some '\r' → (dropReturn segment).getLast? = some '\r') →
        dropReturn (line ++ lineEnd) = line := by
  by_cases returned : segment.getLast? = some '\r'
  · obtain ⟨chars, rfl⟩ := List.getLast?_eq_some_iff.mp returned
    refine ⟨['\r'], ?_, ?_⟩
    · rw [dropReturn_concat, if_pos rfl]
    · intro line _
      rw [dropReturn_concat, if_pos rfl]
  · have kept : dropReturn segment = segment := by rw [dropReturn, if_neg returned]
    refine ⟨[], by rw [kept, List.append_nil], ?_⟩
    intro line plain
    rw [kept] at plain
    rw [List.append_nil, dropReturn, if_neg fun last => returned (plain last)]

/-! ### One of many lines -/

theorem dropTrailingEmpty_around {line : List Char} (nonempty : line ≠ [])
    (above below : List (List Char)) :
    dropTrailingEmpty (above ++ line :: below) = above ++ line :: dropTrailingEmpty below := by
  have kept : dropTrailingEmpty (line :: below) = line :: dropTrailingEmpty below := by
    rw [dropTrailingEmpty_cons, if_neg (by simp [nonempty])]
  rw [dropTrailingEmpty_append (by rw [kept]; exact List.cons_ne_nil _ _), kept]

/-- A line of a text stands at its place, and another one may stand there instead.  It
must not bring a carriage return that would be taken for a part of the line end. -/
theorem exists_around_line {text line : List Char} {index : Nat}
    (numbered : (lines text)[index]? = some line) (nonempty : line ≠ []) :
    ∃ above below before after, above.length = index ∧ placeAfter before = (index, 0) ∧
      text = before ++ line ++ after ∧
      ∀ other, other ≠ [] → '\n' ∉ other →
        (other.getLast? = some '\r' → line.getLast? = some '\r') →
        lines (before ++ other ++ after) = above ++ other :: below := by
  have inSegments : (segments text)[index]? = some line := by
    obtain ⟨count, split⟩ := exists_segments_eq text
    rw [split, List.getElem?_append_left (List.getElem?_eq_some_iff.mp numbered).1]
    exact numbered
  rw [segments, List.getElem?_map, Option.map_eq_some_iff] at inSegments
  obtain ⟨segment, segmentNumbered, rfl⟩ := inSegments
  have oneLine := lineFeed_not_mem_segment text
  have joined : ['\n'].intercalate (text.splitOn '\n') = text := List.intercalate_splitOn '\n'
  generalize text.splitOn '\n' = all at segmentNumbered oneLine joined
  obtain ⟨inBounds, rfl⟩ := List.getElem?_eq_some_iff.mp segmentNumbered
  have cut : all.take index ++ all[index] :: all.drop (index + 1) = all := by
    rw [← List.drop_eq_getElem_cons inBounds, List.take_append_drop]
  have aboveLength : (all.take index).length = index := List.length_take_of_le (by omega)
  generalize all[index] = segment, all.take index = above, all.drop (index + 1) = below at *
  subst cut
  obtain ⟨aboveOneLine, hereOneLine, belowOneLine⟩ := by
    simpa only [List.forall_mem_append, List.forall_mem_cons] using oneLine
  obtain ⟨before, after, place, around⟩ := exists_around_segment aboveOneLine below
  obtain ⟨lineEnd, segmentEq, exchanged⟩ := exists_segment_end segment
  refine ⟨above.map dropReturn, dropTrailingEmpty (below.map dropReturn), before,
    lineEnd ++ after, ?_, ?_, ?_, ?_⟩
  · rw [List.length_map, aboveLength]
  · rw [placeAfter, place 0, aboveLength, Nat.zero_add]
  · calc
      text = before ++ segment ++ after := by rw [← joined, around]
      _ = before ++ (dropReturn segment ++ lineEnd) ++ after := by rw [← segmentEq]
      _ = before ++ dropReturn segment ++ (lineEnd ++ after) := by simp only [List.append_assoc]
  · intro other someOther otherOneLine noReturn
    have endOneLine : '\n' ∉ other ++ lineEnd := by
      rw [segmentEq] at hereOneLine
      simp only [List.mem_append, not_or] at hereOneLine ⊢
      exact ⟨otherOneLine, hereOneLine.2⟩
    have someText : before ++ other ++ (lineEnd ++ after) ≠ [] := by simp [someOther]
    have rejoined : before ++ other ++ (lineEnd ++ after) =
        ['\n'].intercalate (above ++ (other ++ lineEnd) :: below) := by
      rw [around]
      simp only [List.append_assoc]
    rw [lines_eq someText, segments, rejoined, List.splitOn_intercalate '\n' ?_ (by simp),
      List.map_append, List.map_cons, exchanged other noReturn,
      dropTrailingEmpty_around someOther]
    simp only [List.forall_mem_append, List.forall_mem_cons]
    exact ⟨aboveOneLine, endOneLine, belowOneLine⟩

end LoxLexer.Text
