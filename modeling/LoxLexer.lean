import LoxLexer.Command
import LoxLexer.Cursor.Pass
import LoxLexer.Grammar
import LoxLexer.Lexeme.OnePass
import LoxLexer.Proofs.Text.Run
import LoxLexer.Proofs.Text.Lines
import LoxLexer.Proofs.Text.Segments
import LoxLexer.Proofs.Text.LineEnds
import LoxLexer.Proofs.Text.Splitting
import LoxLexer.Proofs.Text.Place
import LoxLexer.Proofs.Text.Blanking
import LoxLexer.Proofs.Text.Trim
import LoxLexer.Proofs.Text.Quoted
import LoxLexer.Proofs.Lexeme.Lead
import LoxLexer.Proofs.Lexeme.Opens
import LoxLexer.Proofs.Lexeme.Lookahead
import LoxLexer.Proofs.Lexeme.Growth
import LoxLexer.Proofs.Lexeme.Spaced
import LoxLexer.Proofs.Lexeme.Strings
import LoxLexer.Proofs.Lexeme.Longest
import LoxLexer.Proofs.Lexeme.Extension
import LoxLexer.Proofs.Lexeme.Kinds
import LoxLexer.Proofs.Lexeme.Order
import LoxLexer.Proofs.Literal.Ends
import LoxLexer.Proofs.Finding.Derivation
import LoxLexer.Proofs.Finding.Coverage
import LoxLexer.Proofs.Finding.Front
import LoxLexer.Proofs.Finding.Recovery
import LoxLexer.Proofs.Finding.Quotes
import LoxLexer.Proofs.Grammar.Sentence
import LoxLexer.Proofs.Grammar.Acceptance
import LoxLexer.Proofs.Document.Reading
import LoxLexer.Proofs.Document.Lookahead
import LoxLexer.Proofs.Document.Partition
import LoxLexer.Proofs.Document.Printing
import LoxLexer.Proofs.Document.Joining
import LoxLexer.Proofs.Document.LineEnds
import LoxLexer.Proofs.Document.Settings
import LoxLexer.Proofs.Document.Strings
import LoxLexer.Proofs.Document.Literals
import LoxLexer.Proofs.Document.Kinds
import LoxLexer.Proofs.Document.Recovery
import LoxLexer.Proofs.Document.Truth
import LoxLexer.Proofs.Diagnostic.Caret
import LoxLexer.Proofs.Diagnostic.Width
import LoxLexer.Proofs.Document.Contents
import LoxLexer.Proofs.Document.Log
import LoxLexer.Proofs.Command.Stdout
import LoxLexer.Proofs.Cursor.Reads
import LoxLexer.Proofs.Cursor.Opening
import LoxLexer.Proofs.Cursor.Pass
import LoxLexer.Proofs.Command.Arguments
import LoxLexer.Proofs.Command.Paths
import LoxLexer.Proofs.Command.Outcome
