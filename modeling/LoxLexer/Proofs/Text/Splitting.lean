/- Which segments of a text are its lines, and which lines a written text has. -/
import LoxLexer.Proofs.Text.LineEnds

namespace LoxLexer.Text

/-! ### Cutting at line feeds -/

/-- A piece of a text between two line feeds, and its segment: one carriage return at the
end of the piece is left out. -/
inductive Holds : List Char → List Char → Prop
  | whole {piece : List Char} : piece.getLast? ≠ some '\r' → Holds piece piece
  | returned (segment : List Char) : Holds (segment ++ ['\r']) segment

inductive Segmented : List Char → List (List Char) → Prop
  | last {piece segment : List Char} :
      '\n' ∉ piece → Holds piece segment → Segmented piece [segment]
  | feed {piece segment rest : List Char} {later : List (List Char)} :
      '\n' ∉ piece → Holds piece segment → Segmented rest later →
      Segmented (piece ++ '\n' :: rest) (segment :: later)

theorem holds_dropReturn (piece : List Char) : Holds piece (dropReturn piece) := by
  unfold dropReturn
  split
  · rename_i returned
    obtain ⟨segment, rfl⟩ := List.getLast?_eq_some_iff.mp returned
    rw [List.dropLast_concat]
    exact .returned segment
  · rename_i whole
    exact .whole whole

theorem Holds.dropReturn_eq {piece segment : List Char} (holds : Holds piece segment) :
    dropReturn piece = segment := by
  cases holds with
  | whole whole => rw [dropReturn, if_neg whole]
  | returned segment => rw [dropReturn_concat, if_pos rfl]

theorem Segmented.segments_eq {text : List Char} {cut : List (List Char)}
    (segmented : Segmented text cut) : segments text = cut := by
  induction segmented with
  | last oneLine holds => rw [segments_of_oneLine oneLine, holds.dropReturn_eq]
  | feed oneLine holds _ ih =>
      rw [segments_joined, segments_of_oneLine oneLine, holds.dropReturn_eq, ih]
      rfl

theorem exists_segmented (text : List Char) : ∃ cut, Segmented text cut := by
  induction text with
  | nil => exact ⟨_, .last List.not_mem_nil (holds_dropReturn [])⟩
  | cons c rest ih =>
      obtain ⟨cut, segmented⟩ := ih
      by_cases feed : c = '\n'
      · subst feed
        exact ⟨_, .feed List.not_mem_nil (holds_dropReturn []) segmented⟩
      · -- The character becomes the first one of the first piece.
        have longer {piece : List Char} (oneLine : '\n' ∉ piece) : '\n' ∉ c :: piece :=
          List.not_mem_cons_of_ne_of_not_mem (Ne.symm feed) oneLine
        cases segmented with
        | last oneLine holds => exact ⟨_, .last (longer oneLine) (holds_dropReturn _)⟩
        | feed oneLine holds later =>
            exact ⟨_, .feed (longer oneLine) (holds_dropReturn _) later⟩

theorem segmented_segments (text : List Char) : Segmented text (segments text) := by
  obtain ⟨cut, segmented⟩ := exists_segmented text
  rw [segmented.segments_eq]
  exact segmented

/-! ### The empty segments at the end -/

def EmptyFrom (segments : List (List Char)) (index : Nat) : Prop :=
  ∀ segment ∈ segments.drop index, segment = []

theorem getLast?_dropTrailingEmpty (lines : List (List Char)) :
    (dropTrailingEmpty lines).getLast? ≠ some [] := by
  induction lines with
  | nil => exact fun impossible => by cases impossible
  | cons line later ih =>
      rw [dropTrailingEmpty_cons]
      by_cases dropped : line.isEmpty && (dropTrailingEmpty later).isEmpty
      · rw [if_pos dropped]
        exact fun impossible => by cases impossible
      · rw [if_neg dropped, List.getLast?_cons]
        cases kept : (dropTrailingEmpty later).getLast? with
        | none =>
            rw [List.getLast?_eq_none_iff] at kept
            simpa [kept] using dropped
        | some last =>
            rw [kept] at ih
            exact ih

/-- Lines end with their last line that is not empty, so that no fewer of them leave only
empty segments. -/
theorem emptyFrom_append {lines : List (List Char)} (lasting : lines.getLast? ≠ some [])
    (count index : Nat) :
    EmptyFrom (lines ++ List.replicate count []) index ↔ lines.length ≤ index := by
  constructor
  · intro empty
    rcases Nat.lt_or_ge index lines.length with inside | behind
    · have sameLast : (lines.drop index).getLast? = lines.getLast? := by
        rw [List.getLast?_drop, if_neg (Nat.not_le_of_lt inside)]
      cases found : lines.getLast? with
      | none =>
          rw [List.getLast?_eq_none_iff.mp found] at inside
          cases inside
      | some last =>
          have member : last ∈ (lines ++ List.replicate count []).drop index := by
            rw [List.drop_append_of_le_length (Nat.le_of_lt inside)]
            exact List.mem_append_left _ (List.mem_of_getLast? (sameLast.trans found))
          rw [empty last member] at found
          exact absurd found lasting
    · exact behind
  · intro behind segment member
    rw [List.drop_append, List.drop_eq_nil_of_le behind, List.nil_append] at member
    exact List.eq_of_mem_replicate (List.mem_of_mem_drop member)

/-! ### Written lines -/

inductive LineEnd
  | feed
  | returnFeed

def LineEnd.text : LineEnd → List Char
  | .feed => ['\n']
  | .returnFeed => ['\r', '\n']

def written (ended : List (List Char × LineEnd)) (last : List Char) (final : Option LineEnd) :
    List Char :=
  match ended with
  | [] => last ++ (final.map LineEnd.text).getD []
  | (line, lineEnd) :: later => line ++ lineEnd.text ++ written later last final

theorem Segmented.line {line rest : List Char} {later : List (List Char)}
    (unbroken : Unbroken line) (lineEnd : LineEnd) (segmented : Segmented rest later) :
    Segmented (line ++ lineEnd.text ++ rest) (line :: later) := by
  cases lineEnd with
  | feed =>
      rw [LineEnd.text, List.append_assoc]
      exact .feed unbroken.1 (.whole unbroken.2) segmented
  | returnFeed =>
      have oneLine : '\n' ∉ line ++ ['\r'] := by simpa using unbroken.1
      have cut := Segmented.feed oneLine (.returned line) segmented
      rw [List.append_assoc] at cut ⊢
      exact cut

theorem exists_segmented_written {last : List Char} (unbroken : Unbroken last)
    (final : Option LineEnd) {ended : List (List Char × LineEnd)}
    (endedUnbroken : ∀ line ∈ ended.map Prod.fst, Unbroken line) :
    ∃ count, Segmented (written ended last final)
      (ended.map Prod.fst ++ [last] ++ List.replicate count []) := by
  induction ended with
  | nil =>
      cases final with
      | none =>
          refine ⟨0, ?_⟩
          rw [written, Option.map_none, Option.getD_none, List.append_nil]
          exact .last unbroken.1 (.whole unbroken.2)
      | some lineEnd =>
          have cut := Segmented.line unbroken lineEnd (segmented_segments [])
          rw [List.append_nil] at cut
          exact ⟨1, cut⟩
  | cons pair later ih =>
      obtain ⟨line, lineEnd⟩ := pair
      obtain ⟨lineUnbroken, laterUnbroken⟩ := List.forall_mem_cons.mp endedUnbroken
      obtain ⟨count, segmented⟩ := ih laterUnbroken
      exact ⟨count, segmented.line lineUnbroken lineEnd⟩

theorem lines_written {last : List Char} (unbroken : Unbroken last) (nonempty : last ≠ [])
    (final : Option LineEnd) {ended : List (List Char × LineEnd)}
    (endedUnbroken : ∀ line ∈ ended.map Prod.fst, Unbroken line) :
    lines (written ended last final) = ended.map Prod.fst ++ [last] := by
  obtain ⟨count, segmented⟩ := exists_segmented_written unbroken final endedUnbroken
  have someText : written ended last final ≠ [] := by
    intro empty
    have cut := segmented.segments_eq
    rw [empty] at cut
    have member : last ∈ segments [] := by
      rw [cut]
      exact List.mem_append_left _ List.mem_concat_self
    exact nonempty (List.mem_singleton.mp member)
  rw [lines_eq someText, segmented.segments_eq, dropTrailingEmpty_append_empty,
    dropTrailingEmpty_eq_self List.getLast?_concat nonempty]

/-! ### Lines -/

/-- The lines of a text are the first ones of its segments, as few as leave only empty
segments behind them. -/
structure SplitsInto (text : List Char) (segments : List (List Char)) (count : Nat) : Prop where
  segmented : Segmented text segments
  unique : ∀ other, Segmented text other → other = segments
  length : segments.length = text.count '\n' + 1
  emptyFrom : EmptyFrom segments count
  least : ∀ index, EmptyFrom segments index → count ≤ index
  taken : lines text = segments.take count
  found : ∀ index < count, ∃ segment, segments[index]? = some segment ∧
    line? text index = some segment
  absent : ∀ index ≥ count, line? text index = none
  oneLine : ∀ line ∈ lines text, '\n' ∉ line
  lasting : (lines text).getLast? ≠ some []

theorem splitsInto_segments {text : List Char} (nonempty : text ≠ []) :
    SplitsInto text (segments text) (lines text).length := by
  obtain ⟨count, split⟩ := exists_segments_eq text
  have lasting : (lines text).getLast? ≠ some [] := by
    rw [lines_eq nonempty]
    exact getLast?_dropTrailingEmpty _
  have emptyFrom (index : Nat) :
      EmptyFrom (segments text) index ↔ (lines text).length ≤ index := by
    rw [split]
    exact emptyFrom_append lasting count index
  constructor
  case segmented => exact segmented_segments text
  case unique =>
    intro other segmented
    exact segmented.segments_eq.symm
  case length => exact segments_length text
  case emptyFrom => exact (emptyFrom _).mpr (Nat.le_refl _)
  case least =>
    intro index empty
    exact (emptyFrom index).mp empty
  case taken => rw [split, List.take_left]
  case found =>
    intro index inside
    refine ⟨(lines text)[index], ?_, List.getElem?_eq_getElem inside⟩
    rw [split, List.getElem?_append_left inside, List.getElem?_eq_getElem inside]
  case absent =>
    intro index behind
    exact List.getElem?_eq_none behind
  case oneLine =>
    intro line member
    exact lineFeed_not_mem_line member
  case lasting => exact lasting

/-- A text has as lines the segments up to the last one that is not empty, and every list of
unbroken lines of which the last is not empty is what some text has as lines, whichever line
ends it is written with. -/
theorem lines_exact :
    (∀ text : List Char, text ≠ [] → ∃ segments count, SplitsInto text segments count) ∧
      ∀ (ended : List (List Char × LineEnd)) (last : List Char) (final : Option LineEnd),
        (∀ line ∈ ended.map Prod.fst, Unbroken line) → Unbroken last → last ≠ [] →
          lines (written ended last final) = ended.map Prod.fst ++ [last] := by
  constructor
  · intro text nonempty
    exact ⟨segments text, (lines text).length, splitsInto_segments nonempty⟩
  · intro ended last final endedUnbroken unbroken nonempty
    exact lines_written unbroken nonempty final endedUnbroken

theorem lines_exact_mixedEnds :
    let text := "\r\r\n\na\r\n\r\n".toList
    let ended : List (List Char × LineEnd) := [("a".toList, .returnFeed), ([], .feed)]
    let last := "b".toList
    text ≠ [] ∧ (∃ segments count, SplitsInto text segments count) ∧
      lines text = ["\r".toList, [], "a".toList] ∧
      (∀ line ∈ ended.map Prod.fst, Unbroken line) ∧ Unbroken last ∧ last ≠ [] ∧
      written ended last (some .returnFeed) = "a\r\n\nb\r\n".toList ∧
      lines (written ended last (some .returnFeed)) = ["a".toList, [], last] := by
  intro text ended last
  have nonempty : text ≠ [] := by decide
  have endedUnbroken : ∀ line ∈ ended.map Prod.fst, Unbroken line := by
    unfold Unbroken
    decide
  have unbroken : Unbroken last := ⟨by decide, by decide⟩
  have lastNonempty : last ≠ [] := by decide
  exact ⟨nonempty, lines_exact.1 text nonempty, by decide, endedUnbroken, unbroken, lastNonempty,
    by decide, lines_exact.2 ended last (some .returnFeed) endedUnbroken unbroken lastNonempty⟩

end LoxLexer.Text
