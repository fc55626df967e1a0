/- Quoted texts are read back: an escaped character is recognised whatever stands behind it. -/
import LoxLexer.Proofs.Text.Run
import LoxLexer.Text.Quoted

namespace LoxLexer.Text

/-! ### Code points -/

end LoxLexer.Text
