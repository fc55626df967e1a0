/- What the lexer finds on one line.  A comment takes the rest of its line, and a token as many
characters as its lexeme has.  A fault takes one character, so that the text after it is looked at
again. -/
import LoxLexer.Fault
import LoxLexer.Lexeme.Opening
import LoxLexer.Text.Blank

namespace LoxLexer

inductive Found
  | token (kind : Kind) (lexeme : List Char)
  | comment (text : List Char)
  | fault (fault : Fault)

/-- What is found, and the column of its first character, counted from zero. -/
structure Finding where
  column : Nat
  found : Found

/-- The findings in the rest of a line that starts at the given column.  The first
`covered` characters belong to a token that has been found before. -/
def findingsFrom (column covered : Nat) : List Char → List Finding
  | [] => []
  | c :: rest =>
      match covered with
      | left + 1 => findingsFrom (column + 1) left rest
      | 0 =>
          if Text.isBlank c then findingsFrom (column + 1) 0 rest
          else
            let text := c :: rest
            match Lexeme.opening text with
            | .comment => [{ column, found := .comment text }]
            | .token kind length =>
                { column, found := .token kind (text.take length) } ::
                  findingsFrom (column + 1) (length - 1) rest
            | .openString =>
                { column, found := .fault (.unterminated (String.ofList text)) } ::
                  findingsFrom (column + 1) 0 rest
            | .nothing =>
                { column, found := .fault (.unrecognised (String.ofList [c])) } ::
                  findingsFrom (column + 1) 0 rest

def lineFindings (line : List Char) : List Finding :=
  findingsFrom 0 0 line

theorem findingsFrom_covered (column covered : Nat) (rest : List Char) :
    findingsFrom column covered rest =
      findingsFrom (column + covered) 0 (rest.drop covered) := by
  induction rest generalizing column covered with
  | nil => simp [findingsFrom]
  | cons c rest inductionHypothesis =>
      cases covered with
      | zero => rfl
      | succ left =>
          rw [findingsFrom, inductionHypothesis]
          simp [Nat.add_assoc, Nat.add_comm 1 left]

end LoxLexer
