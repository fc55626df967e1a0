/- Documents, and what scanning one yields.  Its tokens and its diagnostics are read off the
findings of its lines, in order.  Settings decide which tokens are kept and whether a diagnostic
makes a scan fail; they have no influence on what is found. -/
import LoxLexer.Diagnostic
import LoxLexer.Finding
import LoxLexer.Text.Lines
import LoxLexer.Token

namespace LoxLexer

/-- What happens to characters that belong to no token: they are passed over, or
the first of them makes the scan fail. -/
inductive Mode
  | lenient
  | strict
  deriving DecidableEq

structure Settings where
  mode : Mode := .lenient
  withComments : Bool := true
  deriving DecidableEq

structure Document where
  source : String
  file : String
  deriving DecidableEq

def Document.defaultFile : String := "shell"

def Document.ofSource (source : String) (file? : Option String) : Document :=
  { source, file := file?.getD defaultFile }

/-! ### Findings -/

def Document.lines (document : Document) : List (List Char) :=
  Text.lines document.source.toList

def Document.findings (document : Document) : List (List Finding) :=
  document.lines.map lineFindings

def Finding.token? (line : Nat) (finding : Finding) : Option Token :=
  match finding.found with
  | .token kind lexeme =>
      some
        { kind
          lexeme := String.ofList lexeme
          literal := (Literal.ofLexeme? kind lexeme).getD (Literal.verbatim lexeme)
          line
          column := finding.column }
  | .comment text =>
      some
        { kind := .comment
          lexeme := String.ofList text
          literal := Literal.verbatim text
          line
          column := finding.column }
  | .fault _ => none

def Finding.diagnostic? (file : String) (line : Nat) (finding : Finding) :
    Option Diagnostic :=
  match finding.found with
  | .fault fault => some { fault, position := { line, column := finding.column, file } }
  | _ => none

/-! ### Scanning -/

def Settings.keeps (settings : Settings) (token : Token) : Bool :=
  settings.withComments || !token.isComment

def tokensOf (settings : Settings) (findings : List (List Finding)) : List Token :=
  let all := findings.zipIdx.flatMap fun (line, index) =>
    line.filterMap (Finding.token? index)
  all.filter settings.keeps ++ [Token.endOfSource findings.length]

def diagnosticsOf (file : String) (findings : List (List Finding)) : List Diagnostic :=
  findings.zipIdx.flatMap fun (line, index) =>
    line.filterMap (Finding.diagnostic? file index)

structure Report where
  tokens : List Token
  diagnostics : List Diagnostic

def Document.report (document : Document) (settings : Settings) : Report :=
  let findings := document.findings
  { tokens := tokensOf settings findings
    diagnostics := diagnosticsOf document.file findings }

/-- The tokens, or in strict mode the first diagnostic if there is one. -/
def Document.scan (document : Document) (settings : Settings) :
    Except Diagnostic (List Token) :=
  let report := document.report settings
  match settings.mode, report.diagnostics with
  | .strict, first :: _ => .error first
  | _, _ => .ok report.tokens

/-! ### Short forms -/

def lenientTokens (source : String) (file? : Option String) : List Token :=
  ((Document.ofSource source file?).report {}).tokens

def strictTokens (source : String) (file? : Option String) :
    Except Diagnostic (List Token) :=
  (Document.ofSource source file?).scan { mode := .strict }

def tokensWith (source : String) (file? : Option String) (settings : Settings) :
    Except Diagnostic (List Token) :=
  (Document.ofSource source file?).scan settings

end LoxLexer
