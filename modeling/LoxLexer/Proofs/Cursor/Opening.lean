/- What a cursor finds at its place is what the text from there on opens with.  A candidate is
only read where one more character is left, so that no slice asks for too many. -/
import LoxLexer.Proofs.Cursor.Reads
import LoxLexer.Proofs.Lexeme.Growth

namespace LoxLexer.Cursor

open Lexeme (Longest Opening classOf startsString mayGrow grow grow_token grow_skip grow_stop)

section

variable {line rest taken unread : List Char} {place : Nat} {first : Char}

theorem startsString_of_front (split : first :: rest = taken ++ unread) (nonempty : taken ≠ []) :
    startsString taken = startsString [first] := by
  obtain ⟨head, more, rfl⟩ := List.exists_cons_of_ne_nil nonempty
  obtain ⟨rfl, -⟩ := List.cons.inj split
  rfl

theorem settle?_onLine (here : line.drop place = first :: rest)
    (split : first :: rest = taken ++ unread) (nonempty : taken ≠ []) (longest : Longest) :
    (onLine line place).settle? longest = some (.settle longest taken) := by
  cases longest with
  | some best => rfl
  | none =>
      have front : first :: rest = [first] ++ rest := rfl
      have one := peek?_of_front here front
      rw [List.length_singleton] at one
      rw [settle?, one, Opening.settle, startsString_of_front split nonempty]
      rfl

theorem length_lt_iff_of_front (split : first :: rest = taken ++ unread) :
    taken.length < (first :: rest).length ↔ unread ≠ [] := by
  rw [split, List.length_append, ← List.length_pos_iff]
  omega

theorem pointGoesOn?_onLine (here : line.drop place = first :: rest)
    (split : first :: rest = taken ++ unread) (best : Kind × Nat) :
    (onLine line place).pointGoesOn? (first :: rest).length taken.length (some best) taken =
      some (mayGrow (some best) taken unread) := by
  have more := length_lt_iff_of_front split
  obtain ⟨kind, length⟩ := best
  cases kind with
  | number =>
      rw [pointGoesOn?]
      cases unread with
      | nil =>
          rw [if_neg fun both => more.mp both.2 rfl]
          simp [mayGrow]
      | cons next later =>
          by_cases point : taken.getLast? = some '.'
          · have longer := peek?_of_front here (split.trans (List.append_cons taken next later))
            rw [List.length_append, List.length_singleton] at longer
            rw [if_pos ⟨point, more.mpr (List.cons_ne_nil next later)⟩, longer]
            simp [mayGrow, point]
          · rw [if_neg fun both => point both.1]
            simp [mayGrow, point]
  | _ => rfl

/-- One step reads the next candidate and settles, or goes on behind what it has read. -/
theorem grow?_cons {c : Char} {later : List Char} (here : line.drop place = first :: rest)
    (split : first :: rest = taken ++ c :: later) (longest : Longest) :
    (onLine line place).grow? (first :: rest).length longest taken.length =
      match classOf (taken ++ [c]) with
      | .commentMark => some .comment
      | .token kind =>
          (onLine line place).grow? (first :: rest).length (some (kind, taken.length + 1))
            (taken.length + 1)
      | .unmatched =>
          if mayGrow longest (taken ++ [c]) later then
            if longest.isSome then
              (onLine line place).grow? (first :: rest).length (some (.number, taken.length + 2))
                (taken.length + 2)
            else (onLine line place).grow? (first :: rest).length none (taken.length + 1)
          else some (.settle longest (taken ++ [c])) := by
  have more := (length_lt_iff_of_front split).mpr (List.cons_ne_nil c later)
  have splitHere := split.trans (List.append_cons taken c later)
  have candidate := peek?_of_front here splitHere
  have settled := settle?_onLine here splitHere (by simp)
  have goesOn := pointGoesOn?_onLine here splitHere
  have size : (taken ++ [c]).length = taken.length + 1 := by simp
  rw [size] at candidate goesOn
  rw [grow?, if_pos more, candidate, Option.bind_eq_bind, Option.bind_some]
  cases known : classOf (taken ++ [c]) with
  | commentMark => rfl
  | token kind => rfl
  | unmatched =>
      -- Without a token so far only an open quote lets the candidate grow.
      cases longest with
      | none =>
          have grows : mayGrow none (taken ++ [c]) later = startsString (taken ++ [c]) := rfl
          cases quoted : startsString (taken ++ [c]) <;>
            simp [pointGoesOn?, settled, grows, quoted]
      | some best =>
          simp only [goesOn, settled]
          cases mayGrow (some best) (taken ++ [c]) later <;> rfl

end

/-- A token may grow only over a point in a number, and then a digit follows. -/
theorem exists_next_of_mayGrow {best : Kind × Nat} {candidate unread : List Char}
    (grows : mayGrow (some best) candidate unread = true) :
    ∃ next later, unread = next :: later ∧ classOf (candidate ++ [next]) = .token .number := by
  obtain ⟨kind, length⟩ := best
  cases kind with
  | number =>
      cases unread with
      | nil => simp [mayGrow] at grows
      | cons next later =>
          rw [mayGrow, Bool.and_eq_true] at grows
          exact ⟨next, later, rfl, by simpa using grows.2⟩
  | _ => cases grows

theorem grow?_onLine {line rest : List Char} {place : Nat} {first : Char}
    (here : line.drop place = first :: rest) (longest : Longest) (taken unread : List Char)
    (split : first :: rest = taken ++ unread) :
    (onLine line place).grow? (first :: rest).length longest taken.length =
      some (grow longest taken unread) := by
  -- A point and the digit behind it are passed at once, so the induction is on the length.
  induction size : unread.length using Nat.strongRecOn generalizing longest taken unread with
  | ind size ih =>
      subst size
      cases unread with
      | nil =>
          have atEnd := mt (length_lt_iff_of_front split).mp (not_not_intro rfl)
          have nonempty : taken ≠ [] := by
            rintro rfl
            cases split
          rw [grow?, if_neg atEnd, settle?_onLine here split nonempty]
          rfl
      | cons c later =>
          have splitHere := split.trans (List.append_cons taken c later)
          have next := fun longest =>
            ih later.length (by simp) longest (taken ++ [c]) later splitHere rfl
          have size : (taken ++ [c]).length = taken.length + 1 := by simp
          rw [size] at next
          rw [grow?_cons here split]
          cases known : classOf (taken ++ [c]) with
          | commentMark => simp only [grow, known]
          | token kind => rw [grow_token known, size, ← next]
          | unmatched =>
              cases grows : mayGrow longest (taken ++ [c]) later with
              | false => rw [grow_stop known grows, if_neg Bool.false_ne_true]
              | true =>
                  cases longest with
                  | none =>
                      rw [grow_skip known grows, ← next]
                      rfl
                  | some best =>
                      obtain ⟨digit, after, rfl, number⟩ := exists_next_of_mayGrow grows
                      have splitBehind := splitHere.trans (List.append_cons _ digit after)
                      have shorter : after.length < (c :: digit :: after).length := by
                        rw [List.length_cons, List.length_cons]
                        omega
                      have behind := ih after.length shorter
                        (some (.number, (taken ++ [c] ++ [digit]).length)) (taken ++ [c] ++ [digit])
                        after splitBehind rfl
                      have sizeBehind : (taken ++ [c] ++ [digit]).length = taken.length + 2 := by
                        simp
                      rw [grow_skip known grows, grow_token number, ← behind, sizeBehind]
                      rfl

theorem opening?_onLine {line rest : List Char} {place : Nat} {first : Char}
    (here : line.drop place = first :: rest) :
    (onLine line place).opening? = some (Lexeme.opening (first :: rest)) := by
  rw [opening?, remaining?_of_here here]
  exact grow?_onLine here none [] (first :: rest) rfl

end LoxLexer.Cursor
