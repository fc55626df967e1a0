/- What a text opens with: its longest lexeme, if it has one.  A candidate grows by one character
at a time, and growth ends at the first candidate without a class.  But a candidate that starts
with a quote goes on growing, and after a number and a point the next candidate decides. -/
import LoxLexer.Lexeme.Class

namespace LoxLexer.Lexeme

inductive Opening
  | comment
  | token (kind : Kind) (length : Nat)
  /-- A quote that no other quote follows. -/
  | openString
  | nothing
  deriving DecidableEq

def startsString (candidate : List Char) : Bool :=
  candidate.head? = some '"'

/-- The longest token so far: a kind and a number of characters. -/
abbrev Longest := Option (Kind × Nat)

def Opening.settle (longest : Longest) (candidate : List Char) : Opening :=
  match longest with
  | some (kind, length) => .token kind length
  | none => if startsString candidate then .openString else .nothing

def mayGrow (longest : Longest) (candidate unread : List Char) : Bool :=
  match longest with
  | none => startsString candidate
  | some (.number, _) =>
      candidate.getLast? = some '.' &&
        unread.head?.any fun next => classOf (candidate ++ [next]) = .token .number
  | some _ => false

def grow (longest : Longest) (taken : List Char) : List Char → Opening
  | [] => .settle longest taken
  | c :: unread =>
      let candidate := taken ++ [c]
      match classOf candidate with
      | .commentMark => .comment
      | .token kind => grow (some (kind, candidate.length)) candidate unread
      | .unmatched =>
          if mayGrow longest candidate unread then grow longest candidate unread
          else .settle longest candidate

def opening (text : List Char) : Opening :=
  grow none [] text

end LoxLexer.Lexeme
