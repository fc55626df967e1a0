/- Classes of characters, and maximal runs of characters of one class. -/

namespace LoxLexer.Text

/-! ### Classes -/

theorem ne_of_class {inClass : Char → Bool} {c d : Char} (inside : inClass c = true)
    (outside : inClass d = false) : c ≠ d := by
  intro same
  rw [same, outside] at inside
  contradiction

theorem outside_subclass (inner outer : Char → Bool)
    (contained : ∀ c, inner c = true → outer c = true) {c : Char} (outside : outer c = false) :
    inner c = false := by
  cases inside : inner c with
  | false => rfl
  | true =>
      rw [contained c inside] at outside
      contradiction

theorem outside_disjoint (first second : Char → Bool)
    (disjoint : ∀ c, first c = true → second c = false) {c : Char} (inside : second c = true) :
    first c = false := by
  cases inFirst : first c with
  | false => rfl
  | true =>
      rw [disjoint c inFirst] at inside
      contradiction

/-! ### Runs -/

variable {inClass : Char → Bool}

def StartsOutside (inClass : Char → Bool) (text : List Char) : Prop :=
  ∀ first rest, text = first :: rest → inClass first = false

theorem startsOutside_nil : StartsOutside inClass [] := by
  intro first rest impossible
  cases impossible

theorem startsOutside_cons {first : Char} {rest : List Char} :
    StartsOutside inClass (first :: rest) ↔ inClass first = false := by
  constructor
  · intro outside
    exact outside first rest rfl
  · intro outside _ _ split
    cases split
    exact outside

theorem startsOutside_dropWhile (text : List Char) :
    StartsOutside inClass (text.dropWhile inClass) := by
  intro first rest split
  have stopped := List.head?_dropWhile_not inClass text
  rw [split] at stopped
  simpa using stopped

theorem takeWhile_run {run rest : List Char} (inside : ∀ c ∈ run, inClass c = true)
    (outside : StartsOutside inClass rest) : (run ++ rest).takeWhile inClass = run := by
  rw [List.takeWhile_append_of_pos inside]
  cases rest with
  | nil => simp
  | cons first rest => simp [startsOutside_cons.mp outside]

theorem dropWhile_run {run rest : List Char} (inside : ∀ c ∈ run, inClass c = true)
    (outside : StartsOutside inClass rest) : (run ++ rest).dropWhile inClass = rest := by
  rw [List.dropWhile_append_of_pos inside]
  cases rest with
  | nil => rfl
  | cons first rest => simp [startsOutside_cons.mp outside]

theorem exists_run (inClass : Char → Bool) (text : List Char) :
    ∃ run rest, text = run ++ rest ∧ (∀ c ∈ run, inClass c = true) ∧
      StartsOutside inClass rest := by
  refine ⟨text.takeWhile inClass, text.dropWhile inClass,
    List.takeWhile_append_dropWhile.symm, ?_, startsOutside_dropWhile text⟩
  exact List.all_eq_true.mp List.all_takeWhile

/-! ### Cutting at a separator -/

/-- What stands before the first separator, and what after it. -/
def cutAtFirst (separator : Char) (text : List Char) : List Char × List Char :=
  (text.takeWhile (· ≠ separator), (text.dropWhile (· ≠ separator)).drop 1)

def cutAtLast (separator : Char) (text : List Char) : List Char × List Char :=
  let (after, before) := cutAtFirst separator text.reverse
  (before.reverse, after.reverse)

variable {separator : Char} {before after : List Char}

theorem cutAtFirst_append (first : separator ∉ before) :
    cutAtFirst separator (before ++ separator :: after) = (before, after) := by
  have inside : ∀ c ∈ before, decide (c ≠ separator) = true := by
    intro c member
    apply decide_eq_true
    rintro rfl
    exact first member
  have outside : StartsOutside (fun c => decide (c ≠ separator)) (separator :: after) :=
    startsOutside_cons.mpr (by simp)
  rw [cutAtFirst, takeWhile_run inside outside, dropWhile_run inside outside]
  rfl

theorem cutAtLast_append (last : separator ∉ after) :
    cutAtLast separator (before ++ separator :: after) = (before, after) := by
  have reversed : (before ++ separator :: after).reverse =
      after.reverse ++ separator :: before.reverse := by
    simp
  rw [cutAtLast, reversed, cutAtFirst_append (by simpa using last)]
  simp only [List.reverse_reverse]

end LoxLexer.Text
