import SyntaxOutline.Bracket.Drawing
import SyntaxOutline.Bracket.Mark
import SyntaxOutline.Bracket.Node
import SyntaxOutline.Bracket.Reading
import SyntaxOutline.Classification
import SyntaxOutline.Collapse
import SyntaxOutline.Collapse.NameTable
import SyntaxOutline.Cst
import SyntaxOutline.Files.Change
import SyntaxOutline.Files.FileTree
import SyntaxOutline.Files.Route
import SyntaxOutline.Log
import SyntaxOutline.Number.Binary64
import SyntaxOutline.Number.Shortest
import SyntaxOutline.Outline
import SyntaxOutline.Plugin.Basic
import SyntaxOutline.Plugin.Bundled
import SyntaxOutline.Plugin.Catalog
import SyntaxOutline.Plugin.JavaScript
import SyntaxOutline.Plugin.Plain
import SyntaxOutline.Plugin.Registry
import SyntaxOutline.Raised
import SyntaxOutline.Schema.Edited
import SyntaxOutline.Schema.Fault
import SyntaxOutline.Schema.Item
import SyntaxOutline.Schema.Outline
import SyntaxOutline.Schema.Record
import SyntaxOutline.Schema.Scalar
import SyntaxOutline.Schema.Source
import SyntaxOutline.Session
import SyntaxOutline.Settings.Arguments
import SyntaxOutline.Settings.Basic
import SyntaxOutline.Settings.CommandLine
import SyntaxOutline.Settings.Dotenv
import SyntaxOutline.Settings.Failure
import SyntaxOutline.Settings.ListItems
import SyntaxOutline.Settings.Options
import SyntaxOutline.Settings.Sources
import SyntaxOutline.Span.Conversion
import SyntaxOutline.Span.Tree
import SyntaxOutline.Text.Blank
import SyntaxOutline.Text.CodePage.Basic
import SyntaxOutline.Text.CodePage.Dos
import SyntaxOutline.Text.CodePage.Iso
import SyntaxOutline.Text.CodePage.Mac
import SyntaxOutline.Text.CodePage.Mainframe
import SyntaxOutline.Text.CodePage.Regional
import SyntaxOutline.Text.CodePage.Windows
import SyntaxOutline.Text.Digit
import SyntaxOutline.Text.Encoding
import SyntaxOutline.Text.Encoding.Broken
import SyntaxOutline.Text.Encoding.Escaped
import SyntaxOutline.Text.Encoding.Shifted
import SyntaxOutline.Text.Encoding.Wide
import SyntaxOutline.Text.LetterCase
import SyntaxOutline.Text.Lines
import SyntaxOutline.Text.Pieces
import SyntaxOutline.Text.Points
import SyntaxOutline.Text.Printable
import SyntaxOutline.Text.Quoted
import SyntaxOutline.Text.Utf8
import SyntaxOutline.Token
import SyntaxOutline.Token.Inquiry
import SyntaxOutline.Value.AsText
import SyntaxOutline.Value.Basic
import SyntaxOutline.Value.Fields
import SyntaxOutline.Value.Json
import SyntaxOutline.Value.Key
import SyntaxOutline.Value.Misuse
import SyntaxOutline.Value.Moment
import SyntaxOutline.Value.Order
import SyntaxOutline.Yaml.Binary
import SyntaxOutline.Yaml.Construction
import SyntaxOutline.Yaml.Cursor
import SyntaxOutline.Yaml.Document
import SyntaxOutline.Yaml.Failure
import SyntaxOutline.Yaml.Label
import SyntaxOutline.Yaml.Lexeme
import SyntaxOutline.Yaml.Lexing
import SyntaxOutline.Yaml.Node
import SyntaxOutline.Yaml.Number
import SyntaxOutline.Yaml.Scalar
import SyntaxOutline.Yaml.Tag
import SyntaxOutline.Proofs.Bracket.Neighbours
import SyntaxOutline.Proofs.Bracket.Preorder
import SyntaxOutline.Proofs.Bracket.Produced
import SyntaxOutline.Proofs.Bracket.RoundTrip
import SyntaxOutline.Proofs.Collapse.Derivation
import SyntaxOutline.Proofs.Collapse.Leaves
import SyntaxOutline.Proofs.Collapse.Expansion
import SyntaxOutline.Proofs.Bracket.Line
import SyntaxOutline.Proofs.Bracket.ByPosition
import SyntaxOutline.Proofs.Text.Excerpt
import SyntaxOutline.Proofs.Span.Agreement
import SyntaxOutline.Proofs.Span.Lossless
import SyntaxOutline.Proofs.Stream.Runs
import SyntaxOutline.Proofs.Span.Surroundings
import SyntaxOutline.Proofs.Session.Trivia
import SyntaxOutline.Proofs.Collapse.Renaming
import SyntaxOutline.Proofs.Registry.History
import SyntaxOutline.Proofs.Registry.Selection
import SyntaxOutline.Proofs.Registry.Scanning
import SyntaxOutline.Proofs.Registry.Isolation
import SyntaxOutline.Proofs.Session.AtomicTokens
import SyntaxOutline.Proofs.Session.Collapsible
import SyntaxOutline.Proofs.Schema.ReadBack
import SyntaxOutline.Proofs.Collapse.Compact
import SyntaxOutline.Proofs.Collapse.Invisible
import SyntaxOutline.Proofs.Collapse.Offences
import SyntaxOutline.Proofs.Bracket.Layout
import SyntaxOutline.Proofs.Bracket.Settling
import SyntaxOutline.Proofs.Bracket.Legible
import SyntaxOutline.Proofs.Stream.Partition
import SyntaxOutline.Proofs.Collapse.Linear
import SyntaxOutline.Proofs.Registry.Documents
import SyntaxOutline.Proofs.Bracket.Unambiguous
import SyntaxOutline.Proofs.Registry.Remembering
import SyntaxOutline.Proofs.Registry.Overwriting
import SyntaxOutline.Proofs.Registry.Entering
import SyntaxOutline.Proofs.Registry.Rescan
