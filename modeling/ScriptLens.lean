import ScriptLens.Host.Tree
import ScriptLens.Lexer.Session
import ScriptLens.Main
import ScriptLens.Proofs.Lexer.Sites
import ScriptLens.Proofs.Lexer.Calls
import ScriptLens.Proofs.Lexer.Partition
import ScriptLens.Proofs.Lexer.Place
import ScriptLens.Proofs.Lexer.Sharing
import ScriptLens.Proofs.Token.Lookahead
import ScriptLens.Proofs.Lexer.Extension
import ScriptLens.Proofs.Lexer.Relexing
import ScriptLens.Proofs.Source.Excerpt
import ScriptLens.Proofs.Text.Lines
import ScriptLens.Proofs.Diagnostic.Message
import ScriptLens.Proofs.Lexer.Restart
import ScriptLens.Proofs.Diagnostic.Underline
import ScriptLens.Proofs.Check.Report
import ScriptLens.Proofs.Check.Verdict
import ScriptLens.Proofs.Highlight.Pieces
import ScriptLens.Proofs.Text.Numbering
import ScriptLens.Proofs.Highlight.Gutter
import ScriptLens.Proofs.Highlight.Terminal
import ScriptLens.Proofs.Highlight.Shown
import ScriptLens.Proofs.Text.Escapes
import ScriptLens.Proofs.Dump.Records
import ScriptLens.Proofs.Dump.Decoding
import ScriptLens.Proofs.Token.Grammar
import ScriptLens.Proofs.Token.Cutting
import ScriptLens.Proofs.Token.Boundary
import ScriptLens.Proofs.Token.Dispatch
import ScriptLens.Proofs.Token.Literal
import ScriptLens.Proofs.Lexer.Numbers
import ScriptLens.Proofs.Token.Quotation
import ScriptLens.Proofs.Lexer.Quotations
import ScriptLens.Proofs.Lexer.Causes
import ScriptLens.Proofs.Text.Utf8
import ScriptLens.Proofs.Highlight.Verbatim
import ScriptLens.Proofs.Settings.Choice
import ScriptLens.Proofs.Settings.Override
import ScriptLens.Proofs.Check.Order
import ScriptLens.Proofs.Lexer.Operators
import ScriptLens.Proofs.Lexer.Trivia
import ScriptLens.Proofs.Lexer.Words
import ScriptLens.Proofs.Source.LineMap
import ScriptLens.Proofs.Source.Columns
import ScriptLens.Proofs.Check.Blank
import ScriptLens.Proofs.Diagnostic.Carets
import ScriptLens.Proofs.Source.Bytes
import ScriptLens.Proofs.Source.Moves
import ScriptLens.Proofs.Text.Tabs
import ScriptLens.Proofs.Diagnostic.Alignment
