/- The two styles of line ends.  Line feeds at the end of a text add segments, all of them empty,
and hence no lines. -/
import LoxLexer.Proofs.Text.Segments

namespace LoxLexer.Text

/-- Writes each chosen line feed of a text with a carriage return before it.  A line
feed is chosen by its index, and the text starts at the given one. -/
def withReturns (chosen : Nat → Bool) (index : Nat) : List Char → List Char
  | [] => []
  | c :: rest =>
      if c = '\n' && chosen index then '\r' :: '\n' :: withReturns chosen (index + 1) rest
      else c :: withReturns chosen (index + 1) rest

variable {chosen : Nat → Bool}

/-! ### Carriage returns -/

theorem segments_of_oneLine {text : List Char} (oneLine : '\n' ∉ text) :
    segments text = [dropReturn text] := by
  have joined := List.splitOn_intercalate '\n' (List.forall_mem_singleton.mpr oneLine)
    (List.cons_ne_nil text [])
  rw [List.intercalate_singleton] at joined
  rw [segments, joined]
  rfl

theorem segments_concat_return {text : List Char} (unbroken : Unbroken text) :
    segments (text ++ ['\r']) = segments text := by
  have oneLine : '\n' ∉ text ++ ['\r'] := by simpa using unbroken.1
  rw [segments_of_oneLine oneLine, segments_of_oneLine unbroken.1, dropReturn_eq_self unbroken,
    dropReturn, if_pos List.getLast?_concat, List.dropLast_concat]

theorem unbroken_before {before rest : List Char} (oneLine : '\n' ∉ before)
    (plain : ¬ ['\r', '\n'] <:+: before ++ '\n' :: rest) : Unbroken before := by
  refine ⟨oneLine, ?_⟩
  intro last
  obtain ⟨chars, rfl⟩ := List.getLast?_eq_some_iff.mp last
  exact plain ⟨chars, rest, by simp⟩

/-- The induction runs along the text, with the part of the current line that has been
passed already in front of it. -/
theorem segments_before_withReturns {before text : List Char} (oneLine : '\n' ∉ before)
    (plain : ¬ ['\r', '\n'] <:+: before ++ text) (index : Nat) :
    segments (before ++ withReturns chosen index text) = segments (before ++ text) := by
  induction text generalizing before index with
  | nil => rfl
  | cons c rest ih =>
      rw [withReturns]
      by_cases feed : c = '\n'
      · subst feed
        have inside : rest <:+ before ++ '\n' :: rest :=
          List.suffix_append_of_suffix (List.suffix_cons '\n' rest)
        have laterPlain : ¬ ['\r', '\n'] <:+: [] ++ rest :=
          fun pair => plain (pair.trans inside.isInfix)
        have later := ih List.not_mem_nil laterPlain (index + 1)
        rw [List.nil_append, List.nil_append] at later
        split
        · rw [List.append_cons before '\r', segments_joined, segments_joined, later,
            segments_concat_return (unbroken_before oneLine plain)]
        · rw [segments_joined, segments_joined, later]
      · have stillOneLine : '\n' ∉ before ++ [c] := by
          rw [List.mem_append, List.mem_singleton, not_or]
          exact ⟨oneLine, Ne.symm feed⟩
        have passed := ih stillOneLine (by rwa [← List.append_cons]) (index + 1)
        rw [← List.append_cons, ← List.append_cons] at passed
        simpa [feed] using passed

theorem segments_withReturns {text : List Char} (plain : ¬ ['\r', '\n'] <:+: text) :
    segments (withReturns chosen 0 text) = segments text :=
  segments_before_withReturns List.not_mem_nil plain 0

theorem lines_withReturns {text : List Char} (plain : ¬ ['\r', '\n'] <:+: text) :
    lines (withReturns chosen 0 text) = lines text := by
  cases text with
  | nil => rfl
  | cons c rest =>
      have someText : withReturns chosen 0 (c :: rest) ≠ [] := by
        rw [withReturns]
        split <;> exact List.cons_ne_nil _ _
      rw [lines_eq someText, lines_eq (List.cons_ne_nil c rest), segments_withReturns plain]

/-! ### Line feeds at the end -/

theorem segments_feeds (count : Nat) :
    segments (List.replicate count '\n') = List.replicate (count + 1) [] := by
  induction count with
  | zero => rfl
  | succ count ih =>
      have joined := segments_joined [] (List.replicate count '\n')
      rw [List.nil_append, ih] at joined
      exact joined

theorem segments_append_feeds (text : List Char) (count : Nat) :
    segments (text ++ List.replicate count '\n') =
      segments text ++ List.replicate count [] := by
  cases count with
  | zero => rw [List.replicate_zero, List.replicate_zero, List.append_nil, List.append_nil]
  | succ count => rw [List.replicate_succ, segments_joined, segments_feeds]

theorem dropTrailingEmpty_append_empty (lines : List (List Char)) (count : Nat) :
    dropTrailingEmpty (lines ++ List.replicate count []) = dropTrailingEmpty lines := by
  induction lines with
  | nil =>
      induction count with
      | zero => rfl
      | succ count ih =>
          rw [List.nil_append] at ih
          rw [List.nil_append, List.replicate_succ, dropTrailingEmpty_cons, ih]
          rfl
  | cons line lines ih =>
      rw [List.cons_append, dropTrailingEmpty_cons, dropTrailingEmpty_cons, ih]

/-- Line feeds at the end of a text make no lines, unless the text was empty: the empty
text has a line, and a line feed by itself has none. -/
theorem lines_append_feeds {text : List Char} (nonempty : text ≠ []) (count : Nat) :
    lines (text ++ List.replicate count '\n') = lines text := by
  have stillSome : text ++ List.replicate count '\n' ≠ [] :=
    List.append_ne_nil_of_left_ne_nil nonempty _
  rw [lines_eq stillSome, lines_eq nonempty, segments_append_feeds,
    dropTrailingEmpty_append_empty]

end LoxLexer.Text
