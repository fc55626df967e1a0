/- What a cursor on a line reads.  The offset of a place is the size of what stands before it, so
offsets and characters stay in step however many bytes the characters take. -/
import LoxLexer.Cursor
import LoxLexer.Proofs.Text.Bytes

namespace LoxLexer

namespace Text

theorem offsetsFrom_getElem? (offset : Nat) (line : List Char) (index : Nat) :
    (offsetsFrom offset line)[index]? =
      if index ≤ line.length then some (offset + byteSize (line.take index)) else none := by
  induction line generalizing offset index with
  | nil =>
      cases index with
      | zero => rfl
      | succ index => rfl
  | cons c rest ih =>
      cases index with
      | zero => rfl
      | succ index =>
          rw [offsetsFrom, List.getElem?_cons_succ, ih, List.take_succ_cons, byteSize,
            List.length_cons]
          simp only [Nat.add_le_add_iff_right, Nat.add_assoc]

theorem byteSize_take_add (line : List Char) (place count : Nat) :
    byteSize (line.take (place + count)) =
      byteSize (line.take place) + byteSize ((line.drop place).take count) := by
  rw [List.take_add, byteSize_append]

end Text

namespace Cursor

def onLine (line : List Char) (place : Nat) : Cursor :=
  { ofLine line with place }

variable (line : List Char) (place count : Nat)

@[simp] theorem onLine_zero : onLine line 0 = ofLine line := rfl

@[simp] theorem place_onLine : (onLine line place).place = place := rfl

theorem atEnd_onLine : (onLine line place).atEnd = decide (line.length ≤ place) := by
  simp [atEnd, onLine, ofLine]

theorem current?_onLine : (onLine line place).current? = (line.drop place).head? := by
  simp [current?, onLine, ofLine]

theorem remaining?_onLine :
    (onLine line place).remaining? =
      if place ≤ line.length then some (line.drop place).length else none := by
  simp [remaining?, onLine, ofLine]

theorem offset_onLine (index : Nat) :
    (onLine line place).offsets[index]? =
      if index ≤ line.length then some (Text.byteSize (line.take index)) else none := by
  simp only [onLine, ofLine, List.getElem?_toArray, Text.offsetsFrom_getElem?, Nat.zero_add]

theorem text_onLine : (onLine line place).text.toList = line := by
  simp [onLine, ofLine]

theorem peek?_onLine :
    (onLine line place).peek? count =
      if place + count ≤ line.length then some ((line.drop place).take count) else none := by
  rw [peek?, offset_onLine, offset_onLine, text_onLine, place_onLine]
  by_cases inside : place + count ≤ line.length
  · have before : place ≤ line.length := Nat.le_trans (Nat.le_add_right place count) inside
    have slice := Text.byteSlice?_byteSize (line.take place) ((line.drop place).take count)
      (line.drop (place + count))
    have whole : line.take place ++ (line.drop place).take count ++ line.drop (place + count) =
        line := by
      rw [← List.take_add, List.take_append_drop]
    rw [whole, ← Text.byteSize_take_add] at slice
    rw [if_pos inside, if_pos inside, if_pos before]
    exact slice
  · rw [if_neg inside, if_neg inside]
    cases (if place ≤ line.length then some (Text.byteSize (line.take place)) else none) <;> rfl

theorem remainder?_onLine :
    (onLine line place).remainder? =
      if place ≤ line.length then some (line.drop place) else none := by
  rw [remainder?, offset_onLine, text_onLine, place_onLine]
  by_cases inside : place ≤ line.length
  · have slice := Text.byteSlice?_byteSize (line.take place) (line.drop place) []
    have size := Text.byteSize_append (line.take place) (line.drop place)
    rw [List.append_nil, List.take_append_drop, ← size, List.take_append_drop] at slice
    rw [if_pos inside, if_pos inside]
    exact slice
  · rw [if_neg inside, if_neg inside]
    rfl

/-! ### Reads before the end -/

section

variable {line rest : List Char} {place : Nat} {first : Char}

theorem length_of_here (here : line.drop place = first :: rest) :
    line.length = place + (first :: rest).length := by
  have size := congrArg List.length here
  rw [List.length_drop, List.length_cons] at size
  rw [List.length_cons]
  omega

theorem atEnd_of_here (here : line.drop place = first :: rest) :
    (onLine line place).atEnd = false := by
  have size := length_of_here here
  rw [List.length_cons] at size
  rw [atEnd_onLine, decide_eq_false_iff_not]
  omega

theorem current?_of_here (here : line.drop place = first :: rest) :
    (onLine line place).current? = some first := by
  rw [current?_onLine, here, List.head?_cons]

theorem remaining?_of_here (here : line.drop place = first :: rest) :
    (onLine line place).remaining? = some (first :: rest).length := by
  rw [remaining?_onLine, length_of_here here, if_pos (Nat.le_add_right place _), here]

theorem remainder?_of_here (here : line.drop place = first :: rest) :
    (onLine line place).remainder? = some (first :: rest) := by
  rw [remainder?_onLine, length_of_here here, if_pos (Nat.le_add_right place _), here]

theorem peek?_of_front {taken unread : List Char} (here : line.drop place = first :: rest)
    (split : first :: rest = taken ++ unread) :
    (onLine line place).peek? taken.length = some taken := by
  have size := length_of_here here
  rw [split, List.length_append, ← Nat.add_assoc] at size
  rw [peek?_onLine, size, if_pos (Nat.le_add_right _ _), here, split, List.take_left]

end

end Cursor

end LoxLexer
