/-
Faults, the reasons why a part of a line is no token.
-/
import LoxLexer.Text.Quoted

namespace LoxLexer

inductive Hint
  | absent
  | suggestion (text : String)
  deriving DecidableEq

protected def Hint.toString : Hint → String
  | .absent => ""
  | .suggestion text => text

instance : ToString Hint := ⟨Hint.toString⟩

/-- A fault carries the text that it was found in: the one character that starts
no token, or the rest of the line from a quote on that none closes. -/
inductive Fault
  | unrecognised (text : String)
  | unterminated (text : String)
  deriving DecidableEq

def Fault.text : Fault → String
  | .unrecognised found => found
  | .unterminated found => found

def Fault.name : Fault → String
  | .unrecognised _ => "UnrecognisedToken"
  | .unterminated _ => "UnterminatedString"

protected def Fault.toString (fault : Fault) : String :=
  let quotedText := String.ofList (Text.quoted fault.text.toList)
  match fault with
  | .unrecognised _ => "unrecognised token: " ++ quotedText
  | .unterminated _ => "unterminated string: " ++ quotedText

instance : ToString Fault := ⟨Fault.toString⟩

def Fault.hint : Fault → Hint
  | .unrecognised found => .suggestion ("No token can start with `" ++ found ++ "`")
  | .unterminated _ =>
      .suggestion "Strings must be closed with `\"` on the line they start"

end LoxLexer
