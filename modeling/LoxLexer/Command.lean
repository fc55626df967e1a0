/- The command `lox-scanner`: what it prints and which code it exits with.  Nothing is printed
before it is known that the scan succeeds.  The reader of arguments, which settles the outcome
itself where it asks for no scan, and the system that loads files are left open. -/
import LoxLexer.Command.Path
import LoxLexer.Diagnostic.Excerpt
import LoxLexer.Document

namespace LoxLexer.Command

structure Request where
  file : String
  strict : Bool
  noComments : Bool
  deriving DecidableEq

structure Outcome where
  code : Nat
  stdout : String
  stderr : String
  deriving DecidableEq

/-! ### Reading a file -/

structure SystemError where
  number : Nat
  description : String
  deriving DecidableEq

inductive ReadFailure
  | system (error : SystemError)
  | invalidText
  deriving DecidableEq

def ReadFailure.reason : ReadFailure → String
  | .system error => error.description ++ " (os error " ++ Nat.repr error.number ++ ")"
  | .invalidText => "stream did not contain valid UTF-8"

def decodeText (content : ByteArray) : Except ReadFailure String :=
  match String.fromUTF8? content with
  | some text => .ok text
  | none => .error .invalidText

def readText (load : String → Except SystemError ByteArray) (path : String) :
    Except ReadFailure String :=
  match load path with
  | .ok content => decodeText content
  | .error error => .error (.system error)

/-! ### Scanning a file -/

/-- Diagnostics name the file without the directories that lead to it. -/
def documentOf (path source : String) : Document :=
  Document.ofSource source (fileName? path)

def Request.settings (request : Request) : Settings :=
  { mode := if request.strict then .strict else .lenient
    withComments := !request.noComments }

def Request.scan (request : Request) (source : String) : Except Diagnostic (List Token) :=
  (documentOf request.file source).scan request.settings

def tokenLines (tokens : List Token) : String :=
  String.join (tokens.map fun token => token.toString ++ "\n")

def Request.unreadable (request : Request) (failure : ReadFailure) : Outcome :=
  { code := 1
    stdout := ""
    stderr :=
      "Error: Failed to read " ++ request.file ++ "\n\nCaused by:\n    " ++
        failure.reason ++ "\n" }

/-- The outcome of a scan that took the given time.  There is none if the diagnostic
has no excerpt. -/
def scanOutcome (source elapsed : String) :
    Except Diagnostic (List Token) → Option Outcome
  | .ok tokens =>
      some
        { code := 0
          stdout := tokenLines tokens
          stderr := "Tokenized in " ++ elapsed ++ "\n" }
  | .error diagnostic =>
      (diagnostic.render? source).map fun text => { code := 1, stdout := "", stderr := text }

def Request.outcome? (request : Request) (elapsed : String) :
    Except ReadFailure String → Option Outcome
  | .error failure => some (request.unreadable failure)
  | .ok source => scanOutcome source elapsed (request.scan source)

/-! ### Running the command -/

/-- The outcome of a run, for a reader of arguments, a way to load files and the time that the
scan takes. -/
def run (parse : List String → Except Outcome Request)
    (load : String → Except SystemError ByteArray) (elapsed : String)
    (arguments : List String) : Option Outcome :=
  match parse arguments with
  | .ok request => request.outcome? elapsed (readText load request.file)
  | .error settled => some settled

end LoxLexer.Command
