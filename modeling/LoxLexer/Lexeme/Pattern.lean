/- The shapes of the lexemes that are not spelled out one by one.  Letters and digits are those of
ASCII. -/

namespace LoxLexer.Lexeme

def isFraction : List Char → Bool
  | [] => true
  | '.' :: digits => !digits.isEmpty && digits.all Char.isDigit
  | _ => false

def isNumber (text : List Char) : Bool :=
  !(text.takeWhile Char.isDigit).isEmpty && isFraction (text.dropWhile Char.isDigit)

def isString : List Char → Bool
  | '"' :: rest => rest.getLast? = some '"' && rest.all (· ≠ '\n')
  | _ => false

def startsIdentifier (c : Char) : Bool :=
  c.isLower || c = '_'

def continuesIdentifier (c : Char) : Bool :=
  c.isAlphanum || c = '_'

def isIdentifier : List Char → Bool
  | [] => false
  | first :: rest => startsIdentifier first && rest.all continuesIdentifier

end LoxLexer.Lexeme
