/- A scan that logs as it goes: a fault is logged when it is met, a comment when its line is done,
and the counts at the end. -/
import LoxLexer.Event

namespace LoxLexer

/-- What a scan has yielded and what it has sent, up to some place of its source. -/
structure Progress where
  tokens : List Token := []
  diagnostics : List Diagnostic := []
  lineCount : Nat := 0
  events : List Event := []

namespace Progress

def meet (file : String) (settings : Settings) (index : Nat) (progress : Progress)
    (finding : Finding) : Progress :=
  match finding.diagnostic? file index with
  | some diagnostic =>
      { progress with
        diagnostics := progress.diagnostics ++ [diagnostic]
        events := progress.events ++ [.inputDropped diagnostic] }
  | none =>
      { progress with
        tokens := progress.tokens ++ ((finding.token? index).filter settings.keeps).toList }

def endLine (index : Nat) (endedInComment : Bool) (progress : Progress) : Progress :=
  { progress with
    lineCount := index + 1
    events := progress.events ++ if endedInComment then [.commentMet index] else [] }

def scanLine (file : String) (settings : Settings) (progress : Progress)
    (numbered : List Finding × Nat) : Progress :=
  (numbered.1.foldl (meet file settings numbered.2) progress).endLine numbered.2
    (numbered.1.any Finding.isComment)

def finish (file : String) (progress : Progress) : Progress :=
  let tokens := progress.tokens ++ [Token.endOfSource progress.lineCount]
  { progress with
    tokens
    events := progress.events ++
      [.sourceScanned file progress.lineCount tokens.length progress.diagnostics.length] }

end Progress

def Document.pass (document : Document) (settings : Settings) : Progress :=
  (document.findings.zipIdx.foldl (Progress.scanLine document.file settings) {}).finish
    document.file

end LoxLexer
