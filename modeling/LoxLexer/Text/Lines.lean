/- Physical lines.  One carriage return before a line feed, or at the very end of the text,
belongs to the line end.  Empty lines at the end of the text are no lines, but the empty text is
one empty line. -/

namespace LoxLexer.Text

def dropReturn (segment : List Char) : List Char :=
  if segment.getLast? = some '\r' then segment.dropLast else segment

/-- Removes the empty lines that no other line follows. -/
def dropTrailingEmpty (lines : List (List Char)) : List (List Char) :=
  lines.foldr
    (fun line later => if line.isEmpty && later.isEmpty then [] else line :: later) []

def lines (text : List Char) : List (List Char) :=
  if text.isEmpty then [[]]
  else dropTrailingEmpty ((text.splitOn '\n').map dropReturn)

def line? (text : List Char) (index : Nat) : Option (List Char) :=
  (lines text)[index]?

theorem lines_nil : lines [] = [[]] := rfl

theorem dropTrailingEmpty_cons (line : List Char) (later : List (List Char)) :
    dropTrailingEmpty (line :: later) =
      if line.isEmpty && (dropTrailingEmpty later).isEmpty then []
      else line :: dropTrailingEmpty later := rfl

end LoxLexer.Text
