/- The caret of an excerpt stands under the first faulty character, although the column, the
blanks cut from the line and the width of the line number are counted apart. -/
import LoxLexer.Diagnostic.Excerpt
import LoxLexer.Proofs.Decimal.Characters
import LoxLexer.Proofs.Document.Reading
import LoxLexer.Proofs.Text.Trim

namespace LoxLexer

/-! ### Five lines -/

theorem Fault.heading_eq (fault : Fault) :
    fault.heading = "Error: " ++ fault.name ++ " (" ++ fault.hint.toString ++ ")" := by
  cases fault <;> rfl

theorem Fault.lineFeed_not_mem_heading {fault : Fault} (oneLine : '\n' ∉ fault.text.toList) :
    '\n' ∉ fault.heading.toList := by
  cases fault with
  | unrecognised found => simpa [Fault.heading, Fault.hint, Fault.name, Fault.text] using oneLine
  | unterminated rest => simp [Fault.heading, Fault.hint, Fault.name]

/-- The lower of two lines points at a character of the upper one, which starts with
a number: the lower line has one bar, below the bar after the number, and one caret,
below the character. -/
structure PointsAt (number : Nat) (c : Char) (upper lower : List Char) : Prop where
  oneBar : lower.count '|' = 1
  oneCaret : lower.count '^' = 1
  number : upper.take (lower.idxOf '|') = Nat.toDigits 10 number ++ [' ']
  bar : upper[lower.idxOf '|']? = some '|'
  character : upper[lower.idxOf '^']? = some c

namespace Excerpt

variable (excerpt : Excerpt)

def numberedLine : List Char :=
  Nat.toDigits 10 excerpt.number ++ " | ".toList ++ excerpt.shown

def caretLine : List Char :=
  excerpt.gutter ++ ' ' :: ['^'].leftpad excerpt.caretWidth '-'

theorem gutter_eq :
    excerpt.gutter =
      List.replicate ((Nat.toDigits 10 excerpt.number).length + 1) ' ' ++ ['|'] := by
  rfl

theorem caretLine_eq :
    excerpt.caretLine =
      List.replicate ((Nat.toDigits 10 excerpt.number).length + 1) ' ' ++
        '|' :: ' ' :: (List.replicate (excerpt.caretWidth - 1) '-' ++ ['^']) := by
  rw [caretLine, gutter_eq, List.append_assoc]
  rfl

theorem eq_of_toText? {excerpt : Excerpt} {text : String}
    (written : excerpt.toText? = some text) :
    text = String.ofList (excerpt.lines.flatMap fun line => line ++ ['\n']) := by
  rw [toText?, Option.ite_none_right_eq_some, Option.some.injEq] at written
  exact written.2.symm

theorem splitOn_text {text : String} (written : excerpt.toText? = some text)
    (heading : '\n' ∉ excerpt.heading.toList) (file : '\n' ∉ excerpt.file.toList)
    (shown : '\n' ∉ excerpt.shown) :
    text.toList.splitOn '\n' =
      [excerpt.heading.toList, "-> ".toList ++ excerpt.file.toList, excerpt.gutter,
        excerpt.numberedLine, excerpt.caretLine, []] := by
  have digits : '\n' ∉ Nat.toDigits 10 excerpt.number := not_mem_toDigits (by decide) _
  have oneLine : ∀ line ∈ excerpt.lines, '\n' ∉ line := by
    intro line member
    simp only [Excerpt.lines, List.mem_cons, List.not_mem_nil, or_false] at member
    rcases member with rfl | rfl | rfl | rfl | rfl
    · exact heading
    · simpa using file
    · simp [gutter_eq]
    · simpa [digits] using shown
    · simp [gutter_eq, List.leftpad]
  rw [eq_of_toText? written, String.toList_ofList, Text.splitOn_ended oneLine]
  rfl

theorem exists_rest {excerpt : Excerpt} {text : String} (written : excerpt.toText? = some text) :
    ∃ rest, text = excerpt.heading ++ "\n-> " ++ excerpt.file ++ "\n" ++ rest := by
  refine ⟨String.ofList
    ([excerpt.gutter, excerpt.numberedLine, excerpt.caretLine].flatMap (· ++ ['\n'])), ?_⟩
  apply String.toList_injective
  rw [eq_of_toText? written]
  simp [Excerpt.lines, numberedLine, caretLine]

theorem idxOf_bar : excerpt.caretLine.idxOf '|' = (Nat.toDigits 10 excerpt.number).length + 1 := by
  rw [caretLine_eq, List.idxOf_append, if_neg (by simp), List.idxOf_cons]
  simp

theorem idxOf_caret :
    excerpt.caretLine.idxOf '^' =
      (Nat.toDigits 10 excerpt.number).length + 3 + (excerpt.caretWidth - 1) := by
  rw [caretLine_eq, List.idxOf_append, if_neg (by simp), List.idxOf_cons, List.idxOf_cons,
    List.idxOf_append, if_neg (by simp)]
  simp
  omega

theorem getElem?_numberedLine (distance : Nat) :
    excerpt.numberedLine[(Nat.toDigits 10 excerpt.number).length + distance]? =
      (' ' :: '|' :: ' ' :: excerpt.shown)[distance]? := by
  rw [numberedLine, List.append_assoc, List.getElem?_append_right (Nat.le_add_right _ _),
    Nat.add_sub_cancel_left]
  rfl

theorem pointsAt {c : Char} (found : excerpt.shown[excerpt.caretWidth - 1]? = some c) :
    PointsAt excerpt.number c excerpt.numberedLine excerpt.caretLine where
  oneBar := by
    rw [caretLine_eq]
    simp [List.count_append, List.count_replicate]
  oneCaret := by
    rw [caretLine_eq]
    simp [List.count_append, List.count_replicate]
  number := by
    rw [idxOf_bar, numberedLine, List.append_assoc, List.take_length_add_append]
    rfl
  bar := by
    rw [idxOf_bar, getElem?_numberedLine]
    rfl
  character := by
    rw [idxOf_caret, Nat.add_assoc, getElem?_numberedLine, Nat.add_comm 3]
    exact found

end Excerpt

/-! ### Diagnostics of a report -/

theorem FoundAt.fault_head {fault : Fault} {rest : List Char}
    (foundAt : FoundAt (.fault fault) rest) (oneLine : '\n' ∉ rest) :
    ∃ c, rest.head? = some c ∧ fault.text.toList.head? = some c ∧ Text.isBlank c = false ∧
      '\n' ∉ fault.text.toList := by
  cases foundAt with
  | @openString body unquoted =>
      rw [Fault.text, String.toList_ofList]
      exact ⟨'"', rfl, rfl, by decide, oneLine⟩
  | @nothing first rest notBlank mark unspelled =>
      have notFeed : '\n' ∉ [first] :=
        fun feed => oneLine (List.mem_cons.mpr (.inl (List.mem_singleton.mp feed)))
      rw [Fault.text, String.toList_ofList]
      exact ⟨first, rfl, rfl, notBlank, notFeed⟩

theorem Diagnostic.excerpt_eq {diagnostic : Diagnostic} {source : String} {line : List Char}
    (numbered : Text.line? source.toList diagnostic.position.line = some line) :
    diagnostic.excerpt source =
      { heading := diagnostic.fault.heading
        file := diagnostic.position.file
        number := diagnostic.position.line + 1
        shown := Text.trimEnd (Text.trimStart line)
        caretWidth := diagnostic.position.column - Text.indentation line + 1 } := by
  rw [Diagnostic.excerpt, numbered]
  rfl

/-- What is shown for a diagnostic has five lines, and the last of them points at the
first faulty character in the line above it. -/
theorem render_points {document : Document} {settings : Settings} {diagnostic : Diagnostic}
    (member : diagnostic ∈ (document.report settings).diagnostics)
    (oneLineFile : '\n' ∉ document.file.toList)
    (narrow : (diagnostic.excerpt document.source).caretWidth ≤ Excerpt.greatestCaretWidth) :
    ∃ text c rendered heading file gutter numberedLine caretLine,
      Text.line? document.source.toList diagnostic.position.line = some text ∧
      text[diagnostic.position.column]? = some c ∧
      diagnostic.fault.text.toList.head? = some c ∧
      diagnostic.render? document.source = some rendered ∧
      rendered.toList.splitOn '\n' = [heading, file, gutter, numberedLine, caretLine, []] ∧
      PointsAt (diagnostic.position.line + 1) c numberedLine caretLine := by
  obtain ⟨before, rest, numbered, columnEq, fileEq, foundAt⟩ := Document.exists_foundAt member
  have oneLine := Document.oneLine_of_numbered numbered
  obtain ⟨c, restHead, faultHead, notBlank, faultOneLine⟩ :=
    foundAt.fault_head fun feed => oneLine (List.mem_append_right before feed)
  have here : (before ++ rest)[diagnostic.position.column]? = some c := by
    rw [columnEq, List.getElem?_append_right (Nat.le_refl _), Nat.sub_self,
      ← List.head?_eq_getElem?, restHead]
  -- The cut at the line's end keeps the faulty character, because it is not blank.
  have shown := Text.getElem?_trimmed here notBlank
  have shownOneLine : '\n' ∉ Text.trimEnd (Text.trimStart (before ++ rest)) :=
    fun feed => oneLine (Text.mem_of_mem_trimStart (Text.mem_of_mem_trimEnd feed))
  have written : diagnostic.render? document.source = some _ := if_pos narrow
  have excerptEq := Diagnostic.excerpt_eq numbered
  have cut := (diagnostic.excerpt document.source).splitOn_text written
    (by rw [excerptEq]; exact Fault.lineFeed_not_mem_heading faultOneLine)
    (by rw [excerptEq, fileEq]; exact oneLineFile)
    (by rw [excerptEq]; exact shownOneLine)
  have points := (diagnostic.excerpt document.source).pointsAt (c := c)
    (by rw [excerptEq]; exact shown)
  exact ⟨before ++ rest, c, _, _, _, _, _, _, numbered, here, faultHead, written, cut, points⟩

def caretSample : Document :=
  { file := "final.lox"
    source := "var a = 1;\n\tvar b = @ \n" }

theorem render_points_caretSample :
    let diagnostic : Diagnostic :=
      { fault := .unrecognised "@"
        position := { file := "final.lox", line := 1, column := 9 } }
    diagnostic ∈ (caretSample.report {}).diagnostics ∧ '\n' ∉ caretSample.file.toList ∧
      (diagnostic.excerpt caretSample.source).caretWidth ≤ Excerpt.greatestCaretWidth ∧
      ∃ text c rendered heading file gutter numberedLine caretLine,
        Text.line? caretSample.source.toList 1 = some text ∧
        text[9]? = some c ∧
        diagnostic.fault.text.toList.head? = some c ∧
        diagnostic.render? caretSample.source = some rendered ∧
        rendered.toList.splitOn '\n' = [heading, file, gutter, numberedLine, caretLine, []] ∧
        PointsAt 2 c numberedLine caretLine := by
  intro diagnostic
  have member : diagnostic ∈ (caretSample.report {}).diagnostics := by
    decide +revert
  have oneLineFile : '\n' ∉ caretSample.file.toList := by
    decide
  have narrow : (diagnostic.excerpt caretSample.source).caretWidth ≤
      Excerpt.greatestCaretWidth := by
    decide +revert
  exact ⟨member, oneLineFile, narrow, render_points member oneLineFile narrow⟩

example :
    (caretSample.report {}).diagnostics.map (·.render? caretSample.source) =
      [some (String.join
        ["Error: UnrecognisedToken (No token can start with `@`)\n",
          "-> final.lox\n",
          "  |\n",
          "2 | var b = @\n",
          "  | --------^\n"])] := by
  decide

end LoxLexer
