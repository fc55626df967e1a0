/- Texts in which some characters are replaced by spaces.  If no part of a line end is chosen, the
lines of the new text are the old ones, each with its own characters replaced. -/
import LoxLexer.Proofs.Text.Segments

namespace LoxLexer.Text

def blankFrom (chosen : Nat → Nat → Bool) (line column : Nat) : List Char → List Char
  | [] => []
  | c :: rest =>
      if c = '\n' then c :: blankFrom chosen (line + 1) 0 rest
      else (if chosen line column then ' ' else c) :: blankFrom chosen line (column + 1) rest

variable {chosen : Nat → Nat → Bool} {line column : Nat} {text : List Char}

theorem blankFrom_lineFeed (chosen : Nat → Nat → Bool) (line column : Nat) (rest : List Char) :
    blankFrom chosen line column ('\n' :: rest) = '\n' :: blankFrom chosen (line + 1) 0 rest := by
  rw [blankFrom, if_pos rfl]

theorem blankFrom_cons {c : Char} (notFeed : c ≠ '\n') (chosen : Nat → Nat → Bool)
    (line column : Nat) (rest : List Char) :
    blankFrom chosen line column (c :: rest) =
      (if chosen line column then ' ' else c) :: blankFrom chosen line (column + 1) rest := by
  rw [blankFrom, if_neg notFeed]

theorem blankFrom_length (chosen : Nat → Nat → Bool) (line column : Nat) (text : List Char) :
    (blankFrom chosen line column text).length = text.length := by
  induction text generalizing line column with
  | nil => rfl
  | cons c text ih =>
      by_cases feed : c = '\n'
      · rw [feed, blankFrom_lineFeed, List.length_cons, ih, List.length_cons]
      · rw [blankFrom_cons feed, List.length_cons, ih, List.length_cons]

/-! ### On one line -/

theorem blankFrom_append (oneLine : '\n' ∉ text) (chosen : Nat → Nat → Bool)
    (line column : Nat) (rest : List Char) :
    blankFrom chosen line column (text ++ rest) =
      blankFrom chosen line column text ++ blankFrom chosen line (column + text.length) rest := by
  induction text generalizing column with
  | nil => rfl
  | cons c text ih =>
      obtain ⟨notFeed, laterOneLine⟩ := not_or.mp (mt List.mem_cons.mpr oneLine)
      rw [List.cons_append, blankFrom_cons (Ne.symm notFeed), blankFrom_cons (Ne.symm notFeed),
        ih laterOneLine, List.length_cons, List.cons_append, Nat.add_assoc, Nat.add_comm 1]

theorem blankFrom_eq_self (oneLine : '\n' ∉ text)
    (unchosen : ∀ place, column ≤ place → place < column + text.length →
      chosen line place = false) :
    blankFrom chosen line column text = text := by
  induction text generalizing column with
  | nil => rfl
  | cons c text ih =>
      obtain ⟨notFeed, laterOneLine⟩ := not_or.mp (mt List.mem_cons.mpr oneLine)
      have here : chosen line column = false :=
        unchosen column (Nat.le_refl column) (by rw [List.length_cons]; omega)
      rw [blankFrom_cons (Ne.symm notFeed), here, ih laterOneLine]
      · rfl
      · intro place atLeast below
        exact unchosen place (by omega) (by rw [List.length_cons]; omega)

theorem lineFeed_not_mem_blankFrom (oneLine : '\n' ∉ text) :
    '\n' ∉ blankFrom chosen line column text := by
  induction text generalizing column with
  | nil => exact oneLine
  | cons c text ih =>
      obtain ⟨notFeed, laterOneLine⟩ := not_or.mp (mt List.mem_cons.mpr oneLine)
      rw [blankFrom_cons (Ne.symm notFeed), List.mem_cons, not_or]
      refine ⟨?_, ih laterOneLine⟩
      split
      · decide
      · exact notFeed

theorem blankFrom_eq_cons {first : Char} {rest : List Char}
    (starts : blankFrom chosen line column text = first :: rest) :
    first = ' ' ∨
      ∃ nextLine nextColumn later, text = first :: later ∧
        rest = blankFrom chosen nextLine nextColumn later := by
  cases text with
  | nil => cases starts
  | cons c text =>
      by_cases feed : c = '\n'
      · rw [feed, blankFrom_lineFeed] at starts
        obtain ⟨rfl, rfl⟩ := List.cons.inj starts
        exact .inr ⟨line + 1, 0, text, by rw [feed], rfl⟩
      · rw [blankFrom_cons feed] at starts
        obtain ⟨firstEq, rfl⟩ := List.cons.inj starts
        by_cases here : chosen line column = true
        · rw [if_pos here] at firstEq
          exact .inl firstEq.symm
        · rw [if_neg here] at firstEq
          exact .inr ⟨line, column + 1, text, by rw [firstEq], rfl⟩

/-! ### Line by line -/

theorem splitOn_blankFrom (text : List Char) (line column : Nat) {head : List Char}
    {later : List (List Char)} (split : text.splitOn '\n' = head :: later) :
    (blankFrom chosen line column text).splitOn '\n' =
      blankFrom chosen line column head ::
        later.mapIdx fun index segment => blankFrom chosen (line + 1 + index) 0 segment := by
  -- The first segment goes on from the given column, the later ones start at zero.
  induction text generalizing line column head later with
  | nil =>
      obtain ⟨rfl, rfl⟩ := List.cons.inj split
      rfl
  | cons c text ih =>
      obtain ⟨next, others, textSplit⟩ :=
        List.exists_cons_of_ne_nil (List.splitOn_ne_nil '\n' text)
      rw [List.splitOn_cons_eq_if_modifyHead, textSplit] at split
      by_cases feed : c = '\n'
      · rw [if_pos (beq_iff_eq.mpr feed)] at split
        obtain ⟨rfl, rfl⟩ := List.cons.inj split
        rw [feed, blankFrom_lineFeed, List.splitOn_cons_eq_if_modifyHead, if_pos (by decide),
          ih (line + 1) 0 textSplit, List.mapIdx_cons]
        simp only [Nat.add_assoc, Nat.add_comm 1, Nat.add_zero]
        rfl
      · rw [if_neg (by simpa using feed)] at split
        obtain ⟨rfl, rfl⟩ := List.cons.inj split
        have notFeed : ((if chosen line column then ' ' else c) == '\n') = false := by
          split
          · rfl
          · simpa using feed
        rw [blankFrom_cons feed, blankFrom_cons feed, List.splitOn_cons_eq_if_modifyHead, notFeed,
          ih line (column + 1) textSplit]
        rfl

theorem splitOn_blankFrom_eq (chosen : Nat → Nat → Bool) (text : List Char) :
    (blankFrom chosen 0 0 text).splitOn '\n' =
      (text.splitOn '\n').mapIdx fun index segment => blankFrom chosen index 0 segment := by
  obtain ⟨head, later, split⟩ := List.exists_cons_of_ne_nil (List.splitOn_ne_nil '\n' text)
  rw [splitOn_blankFrom text 0 0 split, split, List.mapIdx_cons]
  simp only [Nat.zero_add, Nat.add_comm 1]

/-- A line end stays as it is if no place beyond the end of its line is chosen. -/
theorem dropReturn_blankFrom {segment : List Char} (oneLine : '\n' ∉ segment)
    (inside : ∀ place, chosen line place = true → place < (dropReturn segment).length) :
    dropReturn (blankFrom chosen line 0 segment) =
      blankFrom chosen line 0 (dropReturn segment) := by
  rcases List.eq_nil_or_concat segment with rfl | ⟨chars, last, rfl⟩
  · rfl
  · rw [List.concat_eq_append] at oneLine inside ⊢
    have charsOneLine : '\n' ∉ chars := fun feed => oneLine (List.mem_append_left _ feed)
    have notFeed : last ≠ '\n' := by
      rintro rfl
      exact oneLine (by simp)
    rw [dropReturn_concat] at inside ⊢
    rw [blankFrom_append charsOneLine, blankFrom_cons notFeed, blankFrom, dropReturn_concat]
    by_cases isReturn : last = '\r'
    -- The return is no part of the line, and hence it is not chosen.
    · rw [if_pos isReturn] at inside
      have unchosen : chosen line (0 + chars.length) ≠ true := by
        intro here
        have impossible := inside _ here
        omega
      rw [if_neg unchosen, if_pos isReturn, if_pos isReturn]
    · have notReturn : (if chosen line (0 + chars.length) then ' ' else last) ≠ '\r' := by
        split
        · decide
        · exact isReturn
      rw [if_neg notReturn, if_neg isReturn, blankFrom_append charsOneLine,
        blankFrom_cons notFeed]
      rfl

theorem dropTrailingEmpty_mapIdx {change : Nat → List Char → List Char}
    (sameEmpty : ∀ index line, (change index line).isEmpty = line.isEmpty)
    (lines : List (List Char)) :
    dropTrailingEmpty (lines.mapIdx change) = (dropTrailingEmpty lines).mapIdx change := by
  induction lines generalizing change with
  | nil => rfl
  | cons line lines ih =>
      have later := ih (fun index line => sameEmpty (index + 1) line)
      rw [List.mapIdx_cons, dropTrailingEmpty_cons, dropTrailingEmpty_cons, later, sameEmpty]
      have stillEmpty :
          ((dropTrailingEmpty lines).mapIdx fun index => change (index + 1)).isEmpty =
            (dropTrailingEmpty lines).isEmpty := by
        cases dropTrailingEmpty lines with
        | nil => rfl
        | cons line lines => rw [List.mapIdx_cons, List.isEmpty_cons, List.isEmpty_cons]
      rw [stillEmpty]
      split
      · rfl
      · rw [List.mapIdx_cons]

def Inside (chosen : Nat → Nat → Bool) (lines : List (List Char)) : Prop :=
  ∀ line column, chosen line column = true →
    ∃ text, lines[line]? = some text ∧ column < text.length

theorem Inside.segment (inside : Inside chosen (lines text)) {index : Nat} {segment : List Char}
    (numbered : (text.splitOn '\n')[index]? = some segment) {place : Nat}
    (here : chosen index place = true) : place < (dropReturn segment).length := by
  obtain ⟨line, lineNumbered, within⟩ := inside index place here
  obtain ⟨count, split⟩ := exists_segments_eq text
  have inLines := (List.getElem?_eq_some_iff.mp lineNumbered).1
  have segmentNumbered : (segments text)[index]? = some (dropReturn segment) := by
    rw [segments, List.getElem?_map, numbered]
    rfl
  rw [split, List.getElem?_append_left inLines, lineNumbered] at segmentNumbered
  rw [← Option.some.inj segmentNumbered]
  exact within

theorem segments_blankFrom (inside : Inside chosen (lines text)) :
    segments (blankFrom chosen 0 0 text) =
      (segments text).mapIdx fun index segment => blankFrom chosen index 0 segment := by
  apply List.ext_getElem?
  intro index
  rw [segments, segments, splitOn_blankFrom_eq, List.getElem?_map, List.getElem?_mapIdx,
    List.getElem?_mapIdx, List.getElem?_map]
  cases numbered : (text.splitOn '\n')[index]? with
  | none => rfl
  | some segment =>
      have oneLine := lineFeed_not_mem_segment text segment (List.mem_of_getElem? numbered)
      exact congrArg some (dropReturn_blankFrom oneLine fun place here =>
        inside.segment numbered here)

theorem lines_blankFrom (inside : Inside chosen (lines text)) :
    lines (blankFrom chosen 0 0 text) =
      (lines text).mapIdx fun index line => blankFrom chosen index 0 line := by
  have sameEmpty : ∀ index line, (blankFrom chosen index 0 line).isEmpty = line.isEmpty := by
    intro index line
    rw [Bool.eq_iff_iff, List.isEmpty_iff_length_eq_zero, List.isEmpty_iff_length_eq_zero,
      blankFrom_length]
  cases text with
  | nil => rfl
  | cons c rest =>
      have stillSome : blankFrom chosen 0 0 (c :: rest) ≠ [] := by
        intro empty
        have length := blankFrom_length chosen 0 0 (c :: rest)
        rw [empty] at length
        cases length
      rw [lines_eq stillSome, segments_blankFrom inside, lines_eq (List.cons_ne_nil c rest)]
      exact dropTrailingEmpty_mapIdx sameEmpty (segments (c :: rest))

end LoxLexer.Text
