/- Nothing that is found reaches across a line feed.  All segments of the first of two joined
sources count, also empty ones at its end. -/
import LoxLexer.Proofs.Document.Partition
import LoxLexer.Proofs.Text.Segments

namespace LoxLexer

/-! ### Moving down -/

def Token.below (count : Nat) (token : Token) : Token :=
  { token with line := count + token.line }

def Diagnostic.below (count : Nat) (diagnostic : Diagnostic) : Diagnostic :=
  { diagnostic with
    position := { diagnostic.position with line := count + diagnostic.position.line } }

section

variable {α : Type} {read : Nat → Finding → Option α}

end

/-! ### Tokens before the end -/

/-- The tokens that stand for something in the source. -/
def Report.inner (report : Report) : List Token :=
  report.tokens.filter fun token => token.kind ≠ .endOfSource

section

variable (first second file : String)

end

end LoxLexer
