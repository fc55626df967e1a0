/- Lines hold no line feed, and texts joined by line feeds are cut where they were joined. -/
import LoxLexer.Text.Lines

namespace LoxLexer.Text

/-! ### Characters of lines -/

theorem separator_not_mem_segment (separator : Char) (text : List Char) :
    ∀ segment ∈ text.splitOn separator, separator ∉ segment := by
  induction text with
  | nil => simp
  | cons c text ih =>
      rw [List.splitOn_cons_eq_if_modifyHead]
      split
      · simpa using ih
      · rename_i other
        obtain ⟨head, later, split⟩ :=
          List.exists_cons_of_ne_nil (List.splitOn_ne_nil separator text)
        rw [split] at ih ⊢
        intro segment member
        rcases List.mem_cons.mp member with rfl | inLater
        · intro inside
          rcases List.mem_cons.mp inside with first | inHead
          · exact other (beq_iff_eq.mpr first.symm)
          · exact ih head List.mem_cons_self inHead
        · exact ih segment (List.mem_cons_of_mem head inLater)

theorem lineFeed_not_mem_segment (text : List Char) :
    ∀ segment ∈ text.splitOn '\n', '\n' ∉ segment :=
  separator_not_mem_segment '\n' text

theorem mem_of_mem_dropReturn {c : Char} {segment : List Char}
    (member : c ∈ dropReturn segment) : c ∈ segment := by
  unfold dropReturn at member
  split at member
  · exact List.dropLast_subset segment member
  · exact member

theorem mem_of_mem_dropTrailingEmpty {line : List Char} {lines : List (List Char)}
    (member : line ∈ dropTrailingEmpty lines) : line ∈ lines := by
  induction lines with
  | nil => exact member
  | cons head later ih =>
      rw [dropTrailingEmpty_cons] at member
      split at member
      · cases member
      · rcases List.mem_cons.mp member with rfl | inLater
        · exact List.mem_cons_self
        · exact List.mem_cons_of_mem head (ih inLater)

theorem lineFeed_not_mem_line {text line : List Char} (member : line ∈ lines text) :
    '\n' ∉ line := by
  unfold lines at member
  split at member
  · rw [List.mem_singleton.mp member]
    simp
  · obtain ⟨segment, inText, rfl⟩ :=
      List.mem_map.mp (mem_of_mem_dropTrailingEmpty member)
    intro feed
    exact lineFeed_not_mem_segment text segment inText (mem_of_mem_dropReturn feed)

/-! ### Joined lines -/

/-- A text that stays one line where it is joined with others. -/
def Unbroken (text : List Char) : Prop :=
  '\n' ∉ text ∧ text.getLast? ≠ some '\r'

theorem Unbroken.append {first second : List Char} (firstUnbroken : Unbroken first)
    (secondUnbroken : Unbroken second) : Unbroken (first ++ second) := by
  constructor
  · intro feed
    rcases List.mem_append.mp feed with inFirst | inSecond
    · exact firstUnbroken.1 inFirst
    · exact secondUnbroken.1 inSecond
  · rw [List.getLast?_append]
    intro last
    rcases Option.or_eq_some_iff.mp last with inSecond | ⟨-, inFirst⟩
    · exact secondUnbroken.2 inSecond
    · exact firstUnbroken.2 inFirst

theorem Unbroken.of_forall {text : List Char} (plain : ∀ c ∈ text, c ≠ '\n' ∧ c ≠ '\r') :
    Unbroken text := by
  refine ⟨fun feed => (plain '\n' feed).1 rfl, ?_⟩
  intro last
  exact (plain '\r' (List.mem_of_getLast? last)).2 rfl

theorem splitOn_ended {lines : List (List Char)} (oneLine : ∀ line ∈ lines, '\n' ∉ line) :
    (lines.flatMap fun line => line ++ ['\n']).splitOn '\n' = lines ++ [[]] := by
  induction lines with
  | nil => rfl
  | cons line lines ih =>
      obtain ⟨lineOneLine, laterOneLine⟩ := List.forall_mem_cons.mp oneLine
      have alone : line.splitOn '\n' = [line] := by
        have joined := List.splitOn_intercalate '\n' (List.forall_mem_singleton.mpr lineOneLine)
          (List.cons_ne_nil line [])
        simpa using joined
      rw [List.flatMap_cons, List.append_assoc, List.singleton_append, List.splitOn_eq_splitOnP,
        List.splitOnP_append_cons _ _ (by decide), ← List.splitOn_eq_splitOnP,
        ← List.splitOn_eq_splitOnP, alone, ih laterOneLine]
      rfl

theorem dropReturn_concat (chars : List Char) (last : Char) :
    dropReturn (chars ++ [last]) = if last = '\r' then chars else chars ++ [last] := by
  unfold dropReturn
  simp

theorem dropReturn_eq_self {text : List Char} (unbroken : Unbroken text) :
    dropReturn text = text := by
  rw [dropReturn, if_neg unbroken.2]

theorem dropTrailingEmpty_eq_self {lines : List (List Char)} {last : List Char}
    (final : lines.getLast? = some last) (nonempty : last ≠ []) :
    dropTrailingEmpty lines = lines := by
  induction lines with
  | nil => cases final
  | cons line later ih =>
      cases later with
      | nil =>
          obtain rfl : line = last := by simpa using final
          simp [dropTrailingEmpty, nonempty]
      | cons next later =>
          rw [dropTrailingEmpty_cons, ih (by simpa using final)]
          simp

/-- Joined lines are found again if the last of them is not empty. -/
theorem lines_joined {segments : List (List Char)} {last : List Char}
    (unbroken : ∀ segment ∈ segments, Unbroken segment)
    (final : segments.getLast? = some last) (nonempty : last ≠ []) :
    lines (['\n'].intercalate segments) = segments := by
  have someSegment : segments ≠ [] := by
    rintro rfl
    cases final
  have split := List.splitOn_intercalate '\n' (fun segment member => (unbroken segment member).1)
    someSegment
  have notEmpty : ['\n'].intercalate segments ≠ [] := by
    intro empty
    rw [empty, List.splitOn_nil] at split
    rw [← split] at final
    exact nonempty (Option.some.inj final).symm
  have kept : segments.map dropReturn = segments := by
    rw [List.map_congr_left fun segment member => dropReturn_eq_self (unbroken segment member)]
    exact List.map_id' segments
  rw [lines, if_neg (by simpa using notEmpty), split, kept,
    dropTrailingEmpty_eq_self final nonempty]

theorem lines_of_forall {text : List Char} (plain : ∀ c ∈ text, c ≠ '\n' ∧ c ≠ '\r') :
    lines text = [text] := by
  by_cases empty : text = []
  · rw [empty, lines_nil]
  · have alone : lines (['\n'].intercalate [text]) = [text] :=
      lines_joined (List.forall_mem_singleton.mpr (Unbroken.of_forall plain)) rfl empty
    rwa [List.intercalate_singleton] at alone

end LoxLexer.Text
