/- The kinds of tokens of Lox.  Every kind has a name, by which it is shown and found again. -/

namespace LoxLexer

/-! ### Symbols -/

inductive Symbol
  | leftParen | rightParen | leftBrace | rightBrace
  | comma | dot | minus | plus | semicolon | slash | star
  | bang | bangEqual | equal | equalEqual
  | greater | greaterEqual | less | lessEqual
  deriving DecidableEq

def Symbol.spelling : Symbol → String
  | .leftParen => "("
  | .rightParen => ")"
  | .leftBrace => "\x7b"
  | .rightBrace => "\x7d"
  | .comma => ","
  | .dot => "."
  | .minus => "-"
  | .plus => "+"
  | .semicolon => ";"
  | .slash => "/"
  | .star => "*"
  | .bang => "!"
  | .bangEqual => "!="
  | .equal => "="
  | .equalEqual => "=="
  | .greater => ">"
  | .greaterEqual => ">="
  | .less => "<"
  | .lessEqual => "<="

def Symbol.name : Symbol → String
  | .leftParen => "LeftParen"
  | .rightParen => "RightParen"
  | .leftBrace => "LeftBrace"
  | .rightBrace => "RightBrace"
  | .comma => "Comma"
  | .dot => "Dot"
  | .minus => "Minus"
  | .plus => "Plus"
  | .semicolon => "Semicolon"
  | .slash => "Slash"
  | .star => "Star"
  | .bang => "Bang"
  | .bangEqual => "BangEqual"
  | .equal => "Equal"
  | .equalEqual => "EqualEqual"
  | .greater => "Greater"
  | .greaterEqual => "GreaterEqual"
  | .less => "Less"
  | .lessEqual => "LessEqual"

def Symbol.plain : List Symbol :=
  [.leftParen, .rightParen, .leftBrace, .rightBrace, .comma, .dot, .minus, .plus,
    .semicolon, .slash, .star]

/-- The symbols of one character that an equals sign extends, each beside the
extended one. -/
def Symbol.extensible : List Symbol :=
  [.bangEqual, .bang, .equalEqual, .equal, .greaterEqual, .greater, .lessEqual, .less]

def Symbol.all : List Symbol :=
  Symbol.plain ++ Symbol.extensible

theorem Symbol.mem_all (symbol : Symbol) : symbol ∈ Symbol.all := by
  cases symbol <;> decide

/-! ### Keywords -/

inductive Keyword
  | and | «else» | false | «fun» | «for» | «if» | nil | or | print | «return»
  | true | var | «while»
  deriving DecidableEq

def Keyword.spelling : Keyword → String
  | .and => "and"
  | .else => "else"
  | .false => "false"
  | .fun => "fun"
  | .for => "for"
  | .if => "if"
  | .nil => "nil"
  | .or => "or"
  | .print => "print"
  | .return => "return"
  | .true => "true"
  | .var => "var"
  | .while => "while"

def Keyword.name : Keyword → String
  | .and => "And"
  | .else => "Else"
  | .false => "False"
  | .fun => "Fun"
  | .for => "For"
  | .if => "If"
  | .nil => "Nil"
  | .or => "Or"
  | .print => "Print"
  | .return => "Return"
  | .true => "True"
  | .var => "Var"
  | .while => "While"

def Keyword.all : List Keyword :=
  [.and, .else, .false, .fun, .for, .if, .nil, .or, .print, .return, .true, .var, .while]

theorem Keyword.mem_all (keyword : Keyword) : keyword ∈ Keyword.all := by
  cases keyword <;> decide

/-! ### Kinds -/

inductive Kind
  | endOfSource
  | number
  | string
  | identifier
  | comment
  | symbol (mark : Symbol)
  | keyword (word : Keyword)
  deriving DecidableEq

def Kind.name : Kind → String
  | .endOfSource => "EOF"
  | .number => "Number"
  | .string => "String"
  | .identifier => "Identifier"
  | .comment => "Comment"
  | .symbol mark => mark.name
  | .keyword word => word.name

def Kind.all : List Kind :=
  [.endOfSource, .number, .string, .identifier, .comment] ++
    Symbol.all.map .symbol ++ Keyword.all.map .keyword

def Kind.ofName? (name : String) : Option Kind :=
  Kind.all.find? fun kind => kind.name == name

def Kind.isReserved : Kind → Bool
  | .keyword _ => true
  | _ => false

theorem Kind.ofName?_name (kind : Kind) : Kind.ofName? kind.name = some kind := by
  cases kind with
  | symbol mark => cases mark <;> decide
  | keyword word => cases word <;> decide
  | _ => decide

end LoxLexer
