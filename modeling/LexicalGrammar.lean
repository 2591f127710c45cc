import LexicalGrammar.Clause
import LexicalGrammar.Command.Run
import LexicalGrammar.Cursor
import LexicalGrammar.FileTree
import LexicalGrammar.Main
import LexicalGrammar.Proofs.Cut.Basic
import LexicalGrammar.Proofs.Cut.Longest
import LexicalGrammar.Proofs.Cut.Number
import LexicalGrammar.Proofs.Cut.Literal
import LexicalGrammar.Proofs.Boundary
import LexicalGrammar.Proofs.Build
import LexicalGrammar.Proofs.Probe
import LexicalGrammar.Proofs.Cut.Category
import LexicalGrammar.Proofs.Splitting
import LexicalGrammar.Proofs.Partition
import LexicalGrammar.Proofs.Stepping
import LexicalGrammar.Proofs.Line.Spelled
import LexicalGrammar.Proofs.Line.Stable
import LexicalGrammar.Proofs.Line.Concatenation
import LexicalGrammar.Proofs.Choice
import LexicalGrammar.Proofs.Quotation.Longest
import LexicalGrammar.Proofs.Quotation.Reachable
import LexicalGrammar.Proofs.Number.Reachable
import LexicalGrammar.Proofs.Number.Digits
import LexicalGrammar.Proofs.Number.Munch
import LexicalGrammar.Proofs.Number.Marked
import LexicalGrammar.Proofs.Declaration.WellFormed
import LexicalGrammar.Proofs.Declaration.Realized
import LexicalGrammar.Proofs.Declaration.Rearranged
import LexicalGrammar.Proofs.Recolouring
import LexicalGrammar.Proofs.Agreement
import LexicalGrammar.Proofs.Quotation.Body
import LexicalGrammar.Proofs.Closing
import LexicalGrammar.Proofs.Layout
import LexicalGrammar.Proofs.Quotation.DoubleQuoted
import LexicalGrammar.Proofs.Json.Document
import LexicalGrammar.Proofs.Json.Reading
import LexicalGrammar.Proofs.Cursor.Bytes
import LexicalGrammar.Proofs.Cursor.Runs
import LexicalGrammar.Proofs.Cursor.Pass
import LexicalGrammar.Proofs.Comment.Loop
import LexicalGrammar.Proofs.Occurrence
import LexicalGrammar.Proofs.Comment.Nesting
import LexicalGrammar.Proofs.Comment.Extent
import LexicalGrammar.Proofs.Expression
import LexicalGrammar.Proofs.Quotation.Escaped
import LexicalGrammar.Proofs.Number.OrderedChoice
import LexicalGrammar.Proofs.Number.Rollback
import LexicalGrammar.Proofs.Number.Loop
import LexicalGrammar.Proofs.Pattern
import LexicalGrammar.Proofs.Number.Longest
import LexicalGrammar.Proofs.Report.Lines
import LexicalGrammar.Proofs.Position
import LexicalGrammar.Proofs.Report.Positions
import LexicalGrammar.Proofs.Identifier
import LexicalGrammar.Proofs.Json.Pattern
import LexicalGrammar.Proofs.ByteOrder
import LexicalGrammar.Proofs.Path
import LexicalGrammar.Proofs.Naming
import LexicalGrammar.Proofs.Settings.Ordered
import LexicalGrammar.Proofs.Resolution
import LexicalGrammar.Proofs.Reserved.Longest
import LexicalGrammar.Proofs.Reserved.WholeWord
