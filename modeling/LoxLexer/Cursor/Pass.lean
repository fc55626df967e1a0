/- A scan that reads its lines through cursors.  The loop over a line has no result if a read has
none, or if a turn passes no character and would be repeated for ever. -/
import LoxLexer.Cursor
import LoxLexer.Document.Pass

namespace LoxLexer

namespace Progress

def keep (token : Token) (progress : Progress) : Progress :=
  { progress with tokens := progress.tokens ++ [token] }

def reject (diagnostic : Diagnostic) (progress : Progress) : Progress :=
  { progress with
    diagnostics := progress.diagnostics ++ [diagnostic]
    events := progress.events ++ [.inputDropped diagnostic] }

end Progress

namespace Cursor

structure Turn where
  cursor : Cursor
  progress : Progress
  inComment : Bool := false

def take? (cursor : Cursor) (file : String) (settings : Settings) (index : Nat)
    (progress : Progress) : Lexeme.Opening → Option Turn
  | .comment =>
      if settings.withComments then do
        let text ← cursor.remainder?
        let token : Token :=
          { kind := .comment
            lexeme := String.ofList text
            literal := Literal.verbatim text
            line := index
            column := cursor.place }
        return { cursor, progress := progress.keep token, inComment := true }
      else return { cursor, progress, inComment := true }
  | .token kind length => do
      let lexeme ← cursor.peek? length
      let literal ← Literal.ofLexeme? kind lexeme
      let token : Token :=
        { kind, lexeme := String.ofList lexeme, literal, line := index, column := cursor.place }
      return { cursor := cursor.advance length, progress := progress.keep token }
  | .openString => do
      let text ← cursor.remainder?
      let fault := Fault.unterminated (String.ofList text)
      let position : Position := { line := index, column := cursor.place, file }
      return { cursor := cursor.advance 1, progress := progress.reject { fault, position } }
  | .nothing => do
      let first ← cursor.current?
      let fault := Fault.unrecognised (String.ofList [first])
      let position : Position := { line := index, column := cursor.place, file }
      return { cursor := cursor.advance 1, progress := progress.reject { fault, position } }

def turn? (cursor : Cursor) (file : String) (settings : Settings) (index : Nat)
    (progress : Progress) : Option Turn := do
  let first ← cursor.current?
  if Text.isBlank first then return { cursor := cursor.advance 1, progress }
  else
    let opening ← cursor.opening?
    cursor.take? file settings index progress opening

def unread (cursor : Cursor) : Nat :=
  cursor.characters.size - cursor.place

/-- Scans the rest of a line, and tells whether it ends in a comment. -/
def scan? (cursor : Cursor) (file : String) (settings : Settings) (index : Nat)
    (progress : Progress) : Option (Progress × Bool) :=
  if cursor.atEnd then some (progress, false)
  else do
    let turn ← cursor.turn? file settings index progress
    if turn.inComment then return (turn.progress, true)
    else if turn.cursor.unread < cursor.unread then
      turn.cursor.scan? file settings index turn.progress
    else none
termination_by cursor.unread

end Cursor

def Progress.scanLine? (file : String) (settings : Settings) (progress : Progress)
    (numbered : List Char × Nat) : Option Progress := do
  let (met, inComment) ← (Cursor.ofLine numbered.1).scan? file settings numbered.2 progress
  return met.endLine numbered.2 inComment

def Document.cursorPass? (document : Document) (settings : Settings) : Option Progress := do
  let scanned ← document.lines.zipIdx.foldlM (Progress.scanLine? document.file settings) {}
  return scanned.finish document.file

end LoxLexer
