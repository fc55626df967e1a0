/-
Diagnostics: a fault and the position of its first character.
-/
import LoxLexer.Fault
import LoxLexer.Position

namespace LoxLexer

structure Diagnostic where
  fault : Fault
  position : Position
  deriving DecidableEq

protected def Diagnostic.toString (diagnostic : Diagnostic) : String :=
  diagnostic.fault.toString ++ " at " ++ diagnostic.position.toString

instance : ToString Diagnostic := ⟨Diagnostic.toString⟩

end LoxLexer
