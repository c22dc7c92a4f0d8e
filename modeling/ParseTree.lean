import ParseTree.Batch
import ParseTree.Command.Arguments
import ParseTree.Command.FileSystem
import ParseTree.Command.Run
import ParseTree.Decimal.Binary64
import ParseTree.Decimal.Shortest
import ParseTree.Diagram
import ParseTree.Flat.Basic
import ParseTree.Flat.Flattener
import ParseTree.Flat.Preorder
import ParseTree.Flat.Span
import ParseTree.Json.Fault
import ParseTree.Json.Lexeme
import ParseTree.Json.Numeral
import ParseTree.Json.Typed
import ParseTree.Json.Value
import ParseTree.Load
import ParseTree.Main
import ParseTree.Position
import ParseTree.Proofs.Layout
import ParseTree.Proofs.Flatten
import ParseTree.Proofs.Skeleton
import ParseTree.Report
import ParseTree.Report.Canvas
import ParseTree.Report.Excerpt
import ParseTree.Report.Window
import ParseTree.Source
import ParseTree.Text.Capital
import ParseTree.Text.Extender
import ParseTree.Text.Lines
import ParseTree.Text.Printable
import ParseTree.Text.Width
import ParseTree.Tree.Basic
import ParseTree.Tree.Builder
import ParseTree.Tree.Event
import ParseTree.Tree.Reader
import ParseTree.Tree.Reader.Rule
import ParseTree.Tree.Reader.Token
import ParseTree.Tree.Writer
import ParseTree.Vocabulary.Basic
import ParseTree.Vocabulary.Label
import ParseTree.Vocabulary.Table
import ParseTree.Vocabulary.Value
import ParseTree.Proofs.Outline
import ParseTree.Proofs.Flattened
import ParseTree.Proofs.Batch
import ParseTree.Proofs.Preorder
import ParseTree.Proofs.Refusal
import ParseTree.Proofs.Lines
import ParseTree.Proofs.Names
import ParseTree.Proofs.Diagram
import ParseTree.Proofs.Likeness
import ParseTree.Proofs.Events
import ParseTree.Proofs.Building
import ParseTree.Proofs.Spelling
import ParseTree.Proofs.Numerals
import ParseTree.Proofs.Lexemes
import ParseTree.Proofs.Drafts
import ParseTree.Proofs.TokenReading
import ParseTree.Proofs.Reading
import ParseTree.Proofs.RoundTrip
import ParseTree.Proofs.Canonical
import ParseTree.Proofs.Declaring
import ParseTree.Proofs.Reordering
import ParseTree.Proofs.TableText
import ParseTree.Proofs.Volumes
import ParseTree.Proofs.Announcing
import ParseTree.Proofs.Printing
import ParseTree.Proofs.Drawing
import ParseTree.Proofs.Starts
import ParseTree.Proofs.Values
import ParseTree.Proofs.TableReading
import ParseTree.Proofs.Conflicts
import ParseTree.Proofs.Kinds
import ParseTree.Proofs.Blocks
import ParseTree.Proofs.Wrapping
import ParseTree.Proofs.LineCount
import ParseTree.Proofs.Visiting
import ParseTree.Proofs.Characters
import ParseTree.Proofs.CamelCase
import ParseTree.Proofs.NumberFields
import ParseTree.Proofs.ValueFaults
import ParseTree.Proofs.Popping
