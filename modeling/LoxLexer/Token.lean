/-
Tokens: a kind, the characters it was found in, what they stand for, and where
they start.
-/
import LoxLexer.Literal

namespace LoxLexer

/-- The line and the column are counted from zero. -/
structure Token where
  kind : Kind
  lexeme : String
  literal : Literal
  line : Nat
  column : Nat

/-- One token on one line, for instance `Number 1.50 1.5 @0:4`. -/
protected def Token.toString (token : Token) : String :=
  token.kind.name ++ " " ++ token.lexeme ++ " " ++ token.literal.toString ++ " @" ++
    Nat.repr token.line ++ ":" ++ Nat.repr token.column

instance : ToString Token := ⟨Token.toString⟩

/-- Whether the token is of a kind whose literals differ from their lexemes. -/
def Token.hasValue (token : Token) : Bool :=
  token.kind = .string || token.kind = .number

def Token.isComment (token : Token) : Bool :=
  token.kind = .comment

def Token.endOfSource (lineCount : Nat) : Token :=
  { kind := .endOfSource
    lexeme := ""
    literal := .text ""
    line := lineCount
    column := 0 }

end LoxLexer
