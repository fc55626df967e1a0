/- The log of a scan.  A line logs each of its faults, then its comment if it ends in one. -/
import LoxLexer.Document

namespace LoxLexer

inductive Level
  | trace
  | debug
  deriving DecidableEq

def Level.name : Level → String
  | .trace => "TRACE"
  | .debug => "DEBUG"

inductive Event
  | commentMet (line : Nat)
  | inputDropped (diagnostic : Diagnostic)
  | sourceScanned (file : String) (lineCount tokenCount droppedCount : Nat)
  deriving DecidableEq

def Event.level : Event → Level
  | .commentMet _ => .trace
  | .inputDropped _ => .debug
  | .sourceScanned .. => .debug

def Event.message : Event → String
  | .commentMet _ => "comment runs to end of line"
  | .inputDropped diagnostic => "dropping input: " ++ diagnostic.fault.toString
  | .sourceScanned .. => "scanned source"

inductive FieldValue
  | text (content : String)
  | number (value : Nat)
  deriving DecidableEq

def Event.fields : Event → List (String × FieldValue)
  | .commentMet line => [("line", .number line)]
  | .inputDropped { position, .. } =>
      [("file", .text position.file), ("line", .number position.line),
        ("column", .number position.column)]
  | .sourceScanned file lineCount tokenCount droppedCount =>
      [("file", .text file), ("lines", .number lineCount), ("tokens", .number tokenCount),
        ("dropped", .number droppedCount)]

structure Entry where
  level : Level
  message : String
  fields : List (String × FieldValue)
  deriving DecidableEq

def Event.entry (event : Event) : Entry :=
  { level := event.level, message := event.message, fields := event.fields }

/-! ### The events of a document -/

def Finding.isComment (finding : Finding) : Bool :=
  match finding.found with
  | .comment _ => true
  | _ => false

def lineEvents (file : String) (index : Nat) (line : List Finding) : List Event :=
  (line.filterMap (Finding.diagnostic? file index)).map .inputDropped ++
    if line.any Finding.isComment then [.commentMet index] else []

def Document.events (document : Document) (settings : Settings) : List Event :=
  let findings := document.findings
  let last :=
    Event.sourceScanned document.file findings.length (tokensOf settings findings).length
      (diagnosticsOf document.file findings).length
  (findings.zipIdx.flatMap fun (line, index) => lineEvents document.file index line) ++ [last]

end LoxLexer
