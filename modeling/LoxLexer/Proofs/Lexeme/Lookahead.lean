/- How far a lexeme looks ahead: to the next character, and behind a number that a point follows
also to the one after it. -/
import LoxLexer.Proofs.Lexeme.Opens

namespace LoxLexer

/-! ### Rests that start alike -/

theorem Text.StartsOutside.of_head?_eq {inClass : Char → Bool} {rest other : List Char}
    (outside : StartsOutside inClass rest) (same : other.head? = rest.head?) :
    StartsOutside inClass other := by
  rintro next later rfl
  obtain ⟨after, split⟩ := List.head?_eq_some_iff.mp same.symm
  exact outside next after split

namespace Lexeme

open Text (StartsOutside)

theorem EndsSymbol.of_head?_eq {lexeme rest other : List Char} (boundary : EndsSymbol lexeme rest)
    (same : other.head? = rest.head?) : EndsSymbol lexeme other := by
  rintro next later rfl
  obtain ⟨after, split⟩ := List.head?_eq_some_iff.mp same.symm
  exact boundary next after split

/-- The rests have the same first character and, after a point, the same second one. -/
def LookAlike (rest other : List Char) : Prop :=
  other.head? = rest.head? ∧
    ∀ after later, rest = '.' :: after → other = '.' :: later → later.head? = after.head?

theorem LookAlike.of_front {front : List Char} (long : 2 ≤ front.length)
    (rest other : List Char) : LookAlike (front ++ rest) (front ++ other) := by
  cases front with
  | nil => simp at long
  | cons first front =>
      cases front with
      | nil => simp at long
      | cons second front =>
          refine ⟨rfl, ?_⟩
          intro after later restSplit otherSplit
          rw [← (List.cons.inj restSplit).2, ← (List.cons.inj otherSplit).2]
          rfl

theorem LookAlike.of_mark {mark : Char} (notPoint : mark ≠ '.') (front rest other : List Char) :
    LookAlike (front ++ mark :: rest) (front ++ mark :: other) := by
  cases front with
  | nil =>
      refine ⟨rfl, ?_⟩
      intro after later restSplit
      exact absurd (List.cons.inj restSplit).1 notPoint
  | cons first front =>
      refine ⟨rfl, ?_⟩
      intro after later restSplit otherSplit
      rw [← (List.cons.inj restSplit).2, ← (List.cons.inj otherSplit).2]
      cases front <;> rfl

/-! ### Whole lexemes -/

/-- A lexeme that is whole before a rest is whole before every rest that looks alike. -/
theorem Complete.of_lookAlike {kind : Kind} {lexeme rest other : List Char}
    (complete : Complete kind lexeme rest) (alike : LookAlike rest other) :
    Complete kind lexeme other := by
  obtain ⟨sameFirst, sameSecond⟩ := alike
  cases complete with
  | string furtherQuotes unquoted boundary =>
      exact .string furtherQuotes unquoted (by rwa [sameFirst])
  | whole nonempty areDigits boundary noFraction =>
      refine .whole nonempty areDigits (boundary.of_head?_eq sameFirst) ?_
      rintro later rfl
      -- Only here a second character counts: a digit would make a fraction.
      obtain ⟨after, rfl⟩ := List.head?_eq_some_iff.mp sameFirst.symm
      exact (noFraction after rfl).of_head?_eq (sameSecond after later rfl rfl)
  | fraction nonempty areDigits placesNonempty arePlaces boundary =>
      exact .fraction nonempty areDigits placesNonempty arePlaces
        (boundary.of_head?_eq sameFirst)
  | word starts continued boundary =>
      exact .word starts continued (boundary.of_head?_eq sameFirst)
  | symbol symbol boundary => exact .symbol symbol (boundary.of_head?_eq sameFirst)

end Lexeme

end LoxLexer
