/- Places in a named source.  Lines and columns are counted from zero, in a text from one. -/

namespace LoxLexer

structure Position where
  line : Nat
  column : Nat
  file : String
  deriving DecidableEq

def Position.unknown : Position :=
  { line := 0, column := 0, file := "<null>" }

protected def Position.toString (position : Position) : String :=
  position.file ++ ":" ++ Nat.repr (position.line + 1) ++ ":" ++
    Nat.repr (position.column + 1)

instance : ToString Position := ⟨Position.toString⟩

end LoxLexer
