/- Literals, the values that lexemes stand for.  A string loses its first and its last byte.
Where the lexer found it these are quotes; in any other text they may be parts of a character, and
then there is no literal. -/
import LoxLexer.Decimal.Layout
import LoxLexer.Kind
import LoxLexer.Text.Bytes

namespace LoxLexer

inductive Literal
  | number (value : Float)
  | text (content : String)

/-- A number is written positionally if it is zero, or at least `10 ^ (-4)` and
below `10 ^ 16`. -/
def Literal.layout : Decimal.Layout :=
  { leastPositional := -4, greatestPositional := 15 }

protected def Literal.toString : Literal → String
  | .number value => String.ofList (layout.writeFloat value)
  | .text content => content

instance : ToString Literal := ⟨Literal.toString⟩

def Literal.verbatim (lexeme : List Char) : Literal :=
  .text (String.ofList lexeme)

/-- The literal of a lexeme of the given kind.  A text of kind number that denotes
no float is kept, and so is a text of kind string of less than two bytes. -/
def Literal.ofLexeme? (kind : Kind) (lexeme : List Char) : Option Literal :=
  match kind with
  | .number => some (((Decimal.readFloat? lexeme).map .number).getD (verbatim lexeme))
  | .string =>
      let size := Text.byteSize lexeme
      if size < 2 then some (verbatim lexeme)
      else (Text.byteSlice? 1 (size - 1) lexeme).map verbatim
  | _ => some (verbatim lexeme)

end LoxLexer
