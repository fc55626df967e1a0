/- What a text opens with, found in one pass that neither tries candidates nor asks for their
class. -/
import LoxLexer.Lexeme.Opening

namespace LoxLexer.Lexeme

/-- The length of the number that a text starts with.  A point belongs to it only
if a digit follows. -/
def numberLength (text : List Char) : Nat :=
  let whole := text.takeWhile Char.isDigit
  match text.dropWhile Char.isDigit with
  | '.' :: rest =>
      let fraction := rest.takeWhile Char.isDigit
      if fraction.isEmpty then whole.length else whole.length + 1 + fraction.length
  | _ => whole.length

/-- What follows a quote.  A string ends with the first run of quotes after it. -/
def stringOpening (afterQuote : List Char) : Opening :=
  let body := afterQuote.takeWhile (· ≠ '"')
  let quotes := (afterQuote.dropWhile (· ≠ '"')).takeWhile (· = '"')
  if quotes.isEmpty then .openString
  else .token .string (1 + body.length + quotes.length)

def wordKind (word : List Char) : Kind :=
  match keyword? word with
  | some keyword => .keyword keyword
  | none => .identifier

/-- The symbol that starts with the given character.  An equals sign after it is
taken where the two of them are a symbol. -/
def symbolOpening (first : Char) (rest : List Char) : Opening :=
  match symbolIn? Symbol.extensible [first, '='], rest with
  | some extended, '=' :: _ => .token (.symbol extended) 2
  | _, _ =>
      match symbolIn? Symbol.all [first] with
      | some symbol => .token (.symbol symbol) 1
      | none => .nothing

def onePassOpening : List Char → Opening
  | [] => .nothing
  | first :: rest =>
      if first = '/' && rest.head? = some '/' then .comment
      else if first = '"' then stringOpening rest
      else if first.isDigit then .token .number (numberLength (first :: rest))
      else if startsIdentifier first then
        let word := (first :: rest).takeWhile continuesIdentifier
        .token (wordKind word) word.length
      else symbolOpening first rest

end LoxLexer.Lexeme
