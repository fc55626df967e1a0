/-
Excerpts, the form in which a diagnostic is shown beside the line it points into.

    Error: UnrecognisedToken (No token can start with `#`)
    -> final.lox
       |
    20 | var a = #;
       | --------^

The line is shown without the blanks at its ends, so the caret stands as far to
the left as blanks were cut from the beginning.  A caret line has a greatest
width; an excerpt with a wider one has no text.
-/
import LoxLexer.Diagnostic
import LoxLexer.Text.Blank
import LoxLexer.Text.Lines

namespace LoxLexer

structure Excerpt where
  heading : String
  file : String
  /-- The number of the shown line, counted from one. -/
  number : Nat
  shown : List Char
  /-- The columns from the beginning of the shown line up to and with the caret. -/
  caretWidth : Nat

def Excerpt.greatestCaretWidth : Nat := 65535

def Fault.heading (fault : Fault) : String :=
  match fault.hint with
  | .absent => "Error: " ++ fault.name
  | .suggestion text => "Error: " ++ fault.name ++ " (" ++ text ++ ")"

/-- The excerpt of a source for a diagnostic.  A line that the source does not have
is shown as an empty line, and a caret that would stand before the shown line
stands at its beginning. -/
def Diagnostic.excerpt (diagnostic : Diagnostic) (source : String) : Excerpt :=
  let position := diagnostic.position
  let line := (Text.line? source.toList position.line).getD []
  { heading := diagnostic.fault.heading
    file := position.file
    number := position.line + 1
    shown := Text.trimEnd (Text.trimStart line)
    caretWidth := position.column - Text.indentation line + 1 }

def Excerpt.gutterWidth (excerpt : Excerpt) : Nat :=
  (Nat.toDigits 10 excerpt.number).length + 2

def Excerpt.gutter (excerpt : Excerpt) : List Char :=
  ['|'].leftpad excerpt.gutterWidth ' '

def Excerpt.lines (excerpt : Excerpt) : List (List Char) :=
  [excerpt.heading.toList,
    "-> ".toList ++ excerpt.file.toList,
    excerpt.gutter,
    Nat.toDigits 10 excerpt.number ++ " | ".toList ++ excerpt.shown,
    excerpt.gutter ++ ' ' :: ['^'].leftpad excerpt.caretWidth '-']

def Excerpt.toText? (excerpt : Excerpt) : Option String :=
  if excerpt.caretWidth ≤ greatestCaretWidth then
    some (String.ofList (excerpt.lines.flatMap fun line => line ++ ['\n']))
  else none

def Diagnostic.render? (diagnostic : Diagnostic) (source : String) : Option String :=
  (diagnostic.excerpt source).toText?

end LoxLexer
