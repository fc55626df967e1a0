/- The class of a candidate lexeme: the first of seven matchers that applies decides. -/
import LoxLexer.Kind
import LoxLexer.Lexeme.Pattern

namespace LoxLexer.Lexeme

inductive Class
  | commentMark
  | token (kind : Kind)
  | unmatched
  deriving DecidableEq

def commentMark : String := "//"

def keyword? (text : List Char) : Option Keyword :=
  Keyword.all.find? fun word => word.spelling.toList = text

def symbolIn? (symbols : List Symbol) (text : List Char) : Option Symbol :=
  symbols.find? fun symbol => symbol.spelling.toList = text

inductive Matcher
  | commentMark
  | number
  | string
  | keyword
  | identifier
  | plainSymbol
  | extensibleSymbol
  deriving DecidableEq

def Matcher.class? (text : List Char) : Matcher → Option Class
  | .commentMark => if text = Lexeme.commentMark.toList then some .commentMark else none
  | .number => if isNumber text then some (.token .number) else none
  | .string => if isString text then some (.token .string) else none
  | .keyword => (keyword? text).map fun word => .token (.keyword word)
  | .identifier => if isIdentifier text then some (.token .identifier) else none
  | .plainSymbol => (symbolIn? Symbol.plain text).map fun mark => .token (.symbol mark)
  | .extensibleSymbol =>
      (symbolIn? Symbol.extensible text).map fun mark => .token (.symbol mark)

def classBy (matchers : List Matcher) (text : List Char) : Class :=
  (matchers.findSome? (Matcher.class? text)).getD .unmatched

/-- Keywords come before identifiers, because each of them has the shape of an
identifier. -/
def Matcher.order : List Matcher :=
  [.commentMark, .number, .string, .keyword, .identifier, .plainSymbol, .extensibleSymbol]

def classOf (text : List Char) : Class :=
  classBy Matcher.order text

end LoxLexer.Lexeme
