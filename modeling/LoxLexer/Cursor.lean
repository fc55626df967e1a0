/- Cursors, which read a line through the byte offsets of its characters.  Nothing in a cursor
keeps a read inside of the line: an index without a character or an offset, bytes in the wrong
order and an offset inside of a character all leave a read without a result. -/
import LoxLexer.Lexeme.Opening
import LoxLexer.Text.Bytes

namespace LoxLexer

/-- The offset of each character of a text that starts at the given one, and of its end. -/
def Text.offsetsFrom (offset : Nat) : List Char → List Nat
  | [] => [offset]
  | c :: rest => offset :: offsetsFrom (offset + c.utf8Size) rest

structure Cursor where
  text : String
  characters : Array Char
  offsets : Array Nat
  place : Nat

namespace Cursor

def ofLine (line : List Char) : Cursor :=
  { text := String.ofList line
    characters := line.toArray
    offsets := (Text.offsetsFrom 0 line).toArray
    place := 0 }

def advance (cursor : Cursor) (count : Nat) : Cursor :=
  { cursor with place := cursor.place + count }

def atEnd (cursor : Cursor) : Bool :=
  cursor.characters.size ≤ cursor.place

/-! ### Reads -/

def current? (cursor : Cursor) : Option Char :=
  cursor.characters[cursor.place]?

def remaining? (cursor : Cursor) : Option Nat :=
  if cursor.place ≤ cursor.characters.size then some (cursor.characters.size - cursor.place)
  else none

def peek? (cursor : Cursor) (count : Nat) : Option (List Char) := do
  let first ← cursor.offsets[cursor.place]?
  let last ← cursor.offsets[cursor.place + count]?
  Text.byteSlice? first last cursor.text.toList

def remainder? (cursor : Cursor) : Option (List Char) := do
  let first ← cursor.offsets[cursor.place]?
  Text.byteSlice? first (Text.byteSize cursor.text.toList) cursor.text.toList

/-! ### Growing a candidate -/

open Lexeme (Longest Opening classOf startsString)

def settle? (cursor : Cursor) : Longest → Option Opening
  | some (kind, length) => some (.token kind length)
  | none => do
      let first ← cursor.peek? 1
      return if startsString first then .openString else .nothing

/-- Whether a candidate that ends in a point is a number with one more character. -/
def pointGoesOn? (cursor : Cursor) (available length : Nat) (longest : Longest)
    (candidate : List Char) : Option Bool :=
  match longest with
  | some (.number, _) =>
      if candidate.getLast? = some '.' ∧ length < available then do
        let longer ← cursor.peek? (length + 1)
        return classOf longer = .token .number
      else some false
  | _ => some false

def grow? (cursor : Cursor) (available : Nat) (longest : Longest) (length : Nat) :
    Option Opening :=
  if length < available then do
    let candidate ← cursor.peek? (length + 1)
    match classOf candidate with
    | .commentMark => return .comment
    | .token kind => cursor.grow? available (some (kind, length + 1)) (length + 1)
    | .unmatched =>
        if ← cursor.pointGoesOn? available (length + 1) longest candidate then
          cursor.grow? available (some (.number, length + 2)) (length + 2)
        else if longest.isSome || !startsString candidate then cursor.settle? longest
        else cursor.grow? available longest (length + 1)
  else cursor.settle? longest
termination_by available - length

def opening? (cursor : Cursor) : Option Opening := do
  let available ← cursor.remaining?
  cursor.grow? available none 0

end Cursor

end LoxLexer
