/- What is relied on of a reader of arguments.  Options end at the first double dash, and what is
no flag is the file. -/
import LoxLexer.Command

namespace LoxLexer.Command

def isFlag (text : String) : Bool :=
  text = "--strict" || text = "--no-comments"

/-- The arguments before the first double dash. -/
def optionsOf (arguments : List String) : List String :=
  arguments.takeWhile (· ≠ "--")

/-- The arguments that are no flags, which after a double dash are all of them. -/
def filesOf (arguments : List String) : List String :=
  (optionsOf arguments).filter (!isFlag ·) ++ (arguments.dropWhile (· ≠ "--")).drop 1

/-- A request tells the file and the flags of its arguments, in whatever order they are given.
Where a flag is not given yet, it is accepted at any place before the double dash. -/
structure ReadsArguments (parse : List String → Except Outcome Request) : Prop where
  file : ∀ arguments request, parse arguments = .ok request →
    filesOf arguments = [request.file]
  strict : ∀ arguments request, parse arguments = .ok request →
    (request.strict = true ↔ "--strict" ∈ optionsOf arguments)
  noComments : ∀ arguments request, parse arguments = .ok request →
    (request.noComments = true ↔ "--no-comments" ∈ optionsOf arguments)
  insert : ∀ before after flag request, parse (before ++ after) = .ok request →
    "--" ∉ before → isFlag flag = true → flag ∉ optionsOf (before ++ after) →
      ∃ changed, parse (before ++ flag :: after) = .ok changed

section

variable {before after : List String} {flag : String}

theorem passes_dashes (noDashes : "--" ∉ before) : ∀ text ∈ before, decide (text ≠ "--") = true := by
  intro text member
  apply decide_eq_true
  rintro rfl
  exact noDashes member

theorem optionsOf_append (noDashes : "--" ∉ before) (rest : List String) :
    optionsOf (before ++ rest) = before ++ optionsOf rest :=
  List.takeWhile_append_of_pos (passes_dashes noDashes)

variable (noDashes : "--" ∉ before) (flagged : isFlag flag = true)

include flagged

theorem flag_ne_dashes : flag ≠ "--" := by
  rintro rfl
  cases flagged

include noDashes

theorem optionsOf_insert :
    optionsOf (before ++ flag :: after) = before ++ flag :: optionsOf after := by
  have kept : optionsOf (flag :: after) = flag :: optionsOf after :=
    List.takeWhile_cons_of_pos (decide_eq_true (flag_ne_dashes flagged))
  rw [optionsOf_append noDashes, kept]

theorem mem_optionsOf_insert (option : String) :
    option ∈ optionsOf (before ++ flag :: after) ↔
      option = flag ∨ option ∈ optionsOf (before ++ after) := by
  rw [optionsOf_insert noDashes flagged, optionsOf_append noDashes]
  simp only [List.mem_append, List.mem_cons]
  exact or_left_comm

theorem filesOf_insert : filesOf (before ++ flag :: after) = filesOf (before ++ after) := by
  have passed := passes_dashes noDashes
  have behind : (flag :: after).dropWhile (· ≠ "--") = after.dropWhile (· ≠ "--") :=
    List.dropWhile_cons_of_pos (decide_eq_true (flag_ne_dashes flagged))
  rw [filesOf, filesOf, optionsOf_insert noDashes flagged, optionsOf_append noDashes,
    List.dropWhile_append_of_pos passed, List.dropWhile_append_of_pos passed, behind,
    List.filter_append, List.filter_append, List.filter_cons_of_neg (by simpa using flagged)]

variable {parse : List String → Except Outcome Request} {request : Request}

/-- One more flag changes nothing but what it stands for. -/
theorem ReadsArguments.parse_insert (reads : ReadsArguments parse)
    (accepted : parse (before ++ after) = .ok request)
    (absent : flag ∉ optionsOf (before ++ after)) :
    parse (before ++ flag :: after) =
      .ok
        { file := request.file
          strict := "--strict" = flag || request.strict
          noComments := "--no-comments" = flag || request.noComments } := by
  -- The longer list is accepted, so what it asks for is read off it like off any other.
  obtain ⟨changed, accepts⟩ := reads.insert before after flag request accepted noDashes flagged absent
  have options : ∀ option, option ∈ optionsOf (before ++ flag :: after) ↔
      option = flag ∨ option ∈ optionsOf (before ++ after) :=
    mem_optionsOf_insert noDashes flagged
  have file : [changed.file] = [request.file] := by
    rw [← reads.file _ _ accepts, ← reads.file _ _ accepted, filesOf_insert noDashes flagged]
  have strict : changed.strict = ("--strict" = flag || request.strict) := by
    rw [Bool.eq_iff_iff, reads.strict _ _ accepts, options, Bool.or_eq_true, decide_eq_true_eq,
      reads.strict _ _ accepted]
  have noComments : changed.noComments = ("--no-comments" = flag || request.noComments) := by
    rw [Bool.eq_iff_iff, reads.noComments _ _ accepts, options, Bool.or_eq_true,
      decide_eq_true_eq, reads.noComments _ _ accepted]
  rw [accepts, ← List.singleton_inj.mp file, ← strict, ← noComments]

end

/-! ### A reader -/

/-- Takes one file and the two flags, and no other option. -/
def sampleReader (arguments : List String) : Except Outcome Request :=
  match filesOf arguments with
  | [file] =>
      if (optionsOf arguments).all fun text => isFlag text || text.toList.head? ≠ some '-' then
        .ok
          { file
            strict := (optionsOf arguments).contains "--strict"
            noComments := (optionsOf arguments).contains "--no-comments" }
      else .error { code := 2, stdout := "", stderr := "error: unexpected argument\n" }
  | _ => .error { code := 2, stdout := "", stderr := "error: not one file\n" }

theorem sampleReader_eq_ok_iff (arguments : List String) (request : Request) :
    sampleReader arguments = .ok request ↔
      ((optionsOf arguments).all fun text => isFlag text || text.toList.head? ≠ some '-') = true ∧
        filesOf arguments = [request.file] ∧
        (optionsOf arguments).contains "--strict" = request.strict ∧
        (optionsOf arguments).contains "--no-comments" = request.noComments := by
  obtain ⟨file, strict, noComments⟩ := request
  unfold sampleReader
  split
  · rename_i other only
    rw [only]
    split
    · rename_i understood
      simp only [understood, Except.ok.injEq, Request.mk.injEq, List.singleton_inj, true_and]
    · rename_i notUnderstood
      simp only [notUnderstood, reduceCtorEq, false_and]
  · rename_i notOne
    simp only [reduceCtorEq, false_iff]
    exact fun ⟨_, only, _⟩ => notOne file only

theorem sampleReader_reads : ReadsArguments sampleReader where
  file := by
    intro arguments request accepted
    exact ((sampleReader_eq_ok_iff arguments request).mp accepted).2.1
  strict := by
    intro arguments request accepted
    rw [← ((sampleReader_eq_ok_iff arguments request).mp accepted).2.2.1]
    exact List.contains_iff_mem
  noComments := by
    intro arguments request accepted
    rw [← ((sampleReader_eq_ok_iff arguments request).mp accepted).2.2.2]
    exact List.contains_iff_mem
  insert := by
    intro before after flag request accepted noDashes flagged _
    obtain ⟨understood, file, -⟩ := (sampleReader_eq_ok_iff _ request).mp accepted
    refine ⟨_, (sampleReader_eq_ok_iff _ { file := request.file, strict := _, noComments := _ }).mpr
      ⟨?_, ?_, rfl, rfl⟩⟩
    · rw [optionsOf_append noDashes, List.all_append, Bool.and_eq_true] at understood
      rw [optionsOf_insert noDashes flagged, List.all_append, List.all_cons, flagged,
        Bool.true_or, Bool.true_and, understood.1, understood.2, Bool.true_and]
    · rw [filesOf_insert noDashes flagged, file]

end LoxLexer.Command
