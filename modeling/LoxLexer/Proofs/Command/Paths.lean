/- The last component of a path.  Empty names and dots at the end of a path lead nowhere. -/
import LoxLexer.Command.Path
import LoxLexer.Proofs.Text.Lines

namespace LoxLexer.Command

/-- The name is the last of the path, apart from names that stay in place. -/
structure LastComponent (path name : String) : Prop where
  place : ∃ before after, path = "/".intercalate (before ++ name :: after) ∧
    (∀ other ∈ before ++ name :: after, '/' ∉ other.toList) ∧
    ∀ other ∈ after, other = "" ∨ other = "."
  nonempty : name ≠ ""
  notDot : name ≠ "."
  notParent : name ≠ ".."

theorem pathNames_eq_iff {path : String} {names : List String} (nonempty : names ≠ []) :
    pathNames path = names ↔
      path = "/".intercalate names ∧ ∀ name ∈ names, '/' ∉ name.toList := by
  constructor
  · rintro rfl
    constructor
    · have spelled : String.toList ∘ String.ofList = id :=
        funext fun _ => String.toList_ofList
      apply String.toList_injective
      rw [String.toList_intercalate, pathNames, List.map_map, spelled, List.map_id]
      exact (List.intercalate_splitOn '/').symm
    · intro name member
      obtain ⟨segment, inPath, rfl⟩ := List.mem_map.mp member
      rw [String.toList_ofList]
      exact Text.separator_not_mem_segment '/' path.toList segment inPath
  · rintro ⟨rfl, noSlash⟩
    have split := List.splitOn_intercalate '/' (List.forall_mem_map.mpr noSlash)
      (mt List.map_eq_nil_iff.mp nonempty)
    have spelled : String.ofList ∘ String.toList = id :=
      funext fun _ => String.ofList_toList
    have slash : "/".toList = ['/'] := rfl
    rw [pathNames, String.toList_intercalate, slash, split, List.map_map, spelled, List.map_id]

theorem staysInPlace_eq_true {name : String} :
    staysInPlace name = true ↔ name = "" ∨ name = "." := by
  simp [staysInPlace]

theorem staysInPlace_eq_false {name : String} :
    staysInPlace name = false ↔ name ≠ "" ∧ name ≠ "." := by
  simp [staysInPlace]

theorem getLast?_pathSteps_iff (path name : String) :
    (pathSteps path).getLast? = some name ↔
      ∃ before after, pathNames path = before ++ name :: after ∧ staysInPlace name = false ∧
        ∀ other ∈ after, staysInPlace other = true := by
  rw [pathSteps, List.getLast?_eq_some_iff]
  constructor
  · rintro ⟨earlier, steps⟩
    obtain ⟨front, back, namesEq, -, last⟩ := List.filter_eq_append_iff.mp steps
    obtain ⟨stays, after, rfl, -, moves, none⟩ := List.filter_eq_cons_iff.mp last
    refine ⟨front ++ stays, after, ?_, by simpa using moves, ?_⟩
    · rw [namesEq, List.append_assoc]
    · simpa using none
  · rintro ⟨before, after, namesEq, moves, stay⟩
    have passed : after.filter (fun name => !staysInPlace name) = [] := by
      simpa using stay
    refine ⟨before.filter fun name => !staysInPlace name, ?_⟩
    rw [namesEq, List.filter_append, List.filter_cons_of_pos (by simpa using moves), passed]

theorem fileName?_eq_some_iff_getLast? (path name : String) :
    fileName? path = some name ↔ (pathSteps path).getLast? = some name ∧ name ≠ ".." := by
  unfold fileName?
  cases (pathSteps path).getLast? with
  | none => simp
  | some last =>
      simp only [Option.ite_none_left_eq_some, Option.some.injEq]
      constructor
      · rintro ⟨notParent, rfl⟩
        exact ⟨rfl, notParent⟩
      · rintro ⟨rfl, notParent⟩
        exact ⟨notParent, rfl⟩

/-- A diagnostic names its file by the last component of the path. -/
theorem fileName?_eq_some_iff (path name : String) :
    fileName? path = some name ↔ LastComponent path name := by
  rw [fileName?_eq_some_iff_getLast?, getLast?_pathSteps_iff]
  constructor
  · rintro ⟨⟨before, after, namesEq, moves, stay⟩, notParent⟩
    obtain ⟨nonempty, notDot⟩ := staysInPlace_eq_false.mp moves
    obtain ⟨pathEq, noSlash⟩ := (pathNames_eq_iff (by simp)).mp namesEq
    exact
      { place := ⟨before, after, pathEq, noSlash, fun other member =>
          staysInPlace_eq_true.mp (stay other member)⟩
        nonempty
        notDot
        notParent }
  · rintro ⟨⟨before, after, pathEq, noSlash, stay⟩, nonempty, notDot, notParent⟩
    have namesEq := (pathNames_eq_iff (by simp)).mpr ⟨pathEq, noSlash⟩
    exact ⟨⟨before, after, namesEq, staysInPlace_eq_false.mpr ⟨nonempty, notDot⟩,
      fun other member => staysInPlace_eq_true.mpr (stay other member)⟩, notParent⟩

end LoxLexer.Command
