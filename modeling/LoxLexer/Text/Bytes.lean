/- Cutting a text at byte offsets.  An offset that falls inside a character cuts the text nowhere,
so a slice exists only between two character boundaries. -/

namespace LoxLexer.Text

def byteSize : List Char → Nat
  | [] => 0
  | c :: rest => c.utf8Size + byteSize rest

/-- The characters before and after a byte offset that is a character
boundary. -/
def cutAtByte? : Nat → List Char → Option (List Char × List Char)
  | 0, text => some ([], text)
  | _ + 1, [] => none
  | offset + 1, c :: rest =>
      if c.utf8Size ≤ offset + 1 then
        (cutAtByte? (offset + 1 - c.utf8Size) rest).map
          fun (before, after) => (c :: before, after)
      else none

/-- The characters whose bytes fill the offsets from `first` up to and without
`last`. -/
def byteSlice? (first last : Nat) (text : List Char) : Option (List Char) := do
  guard (first ≤ last)
  let (before, _) ← cutAtByte? last text
  let (_, slice) ← cutAtByte? first before
  return slice

end LoxLexer.Text
