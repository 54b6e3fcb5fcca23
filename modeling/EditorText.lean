import EditorText.Align.Block
import EditorText.Align.Line
import EditorText.Align.Passes
import EditorText.Choice.Header
import EditorText.Choice.Lines
import EditorText.Choice.Numbering
import EditorText.Choice.TabStop
import EditorText.Decimal.Reading
import EditorText.Decimal.Shortest
import EditorText.Pattern.Basic
import EditorText.Pattern.CharSet
import EditorText.Pattern.CharTest
import EditorText.Pattern.Count
import EditorText.Pattern.Cursor
import EditorText.Pattern.Dialect
import EditorText.Pattern.Engine
import EditorText.Pattern.Escape
import EditorText.Pattern.Fault
import EditorText.Pattern.Flags
import EditorText.Pattern.GroupHead
import EditorText.Pattern.Matching
import EditorText.Pattern.Node
import EditorText.Pattern.Platform
import EditorText.Pattern.Reading
import EditorText.Proofs.Align.Blocks
import EditorText.Proofs.Align.Chains
import EditorText.Proofs.Align.Columns
import EditorText.Proofs.Align.Gaps
import EditorText.Proofs.Align.Growth
import EditorText.Proofs.Align.Offsets
import EditorText.Proofs.Align.Passes
import EditorText.Proofs.Align.Realigning
import EditorText.Proofs.Align.Recutting
import EditorText.Proofs.Align.Reordering
import EditorText.Proofs.Align.Rewriting
import EditorText.Proofs.Align.Separators
import EditorText.Proofs.Align.Shape
import EditorText.Proofs.Align.Stability
import EditorText.Proofs.Choice.Commas
import EditorText.Proofs.Choice.HeaderFree
import EditorText.Proofs.Choice.Headers
import EditorText.Proofs.Choice.Interior
import EditorText.Proofs.Choice.ItemPattern
import EditorText.Proofs.Choice.Items
import EditorText.Proofs.Choice.Pieces
import EditorText.Proofs.Choice.Protection
import EditorText.Proofs.Json.Grammar
import EditorText.Proofs.Json.Uniqueness
import EditorText.Proofs.Pattern.Answers
import EditorText.Proofs.Pattern.Classes
import EditorText.Proofs.Pattern.Copying
import EditorText.Proofs.Pattern.Levels
import EditorText.Proofs.Pattern.Limits
import EditorText.Proofs.Pattern.Literals
import EditorText.Proofs.Pattern.Nesting
import EditorText.Proofs.Pattern.Rejections
import EditorText.Proofs.Pattern.Respelling
import EditorText.Proofs.Pattern.Rounds
import EditorText.Proofs.Pattern.Searching
import EditorText.Proofs.Pattern.Serving
import EditorText.Proofs.Pattern.Taking
import EditorText.Proofs.Replace.Acceptance
import EditorText.Proofs.Replace.Catalog
import EditorText.Proofs.Replace.Importing
import EditorText.Proofs.Replace.Mirroring
import EditorText.Proofs.Replace.Quoting
import EditorText.Proofs.Replace.Records
import EditorText.Proofs.Replace.Running
import EditorText.Proofs.Replace.Scanning
import EditorText.Proofs.Replace.Sharing
import EditorText.Proofs.Replace.Tokens
import EditorText.Proofs.Replace.Unlisted
import EditorText.Proofs.Report.Failures
import EditorText.Proofs.Snippet.Acceptance
import EditorText.Proofs.Snippet.Acts
import EditorText.Proofs.Snippet.Calls
import EditorText.Proofs.Snippet.Commenting
import EditorText.Proofs.Snippet.Conduct
import EditorText.Proofs.Snippet.Cursor
import EditorText.Proofs.Snippet.Descriptions
import EditorText.Proofs.Snippet.Divergence
import EditorText.Proofs.Snippet.Excerpts
import EditorText.Proofs.Snippet.Filenames
import EditorText.Proofs.Snippet.Grammar
import EditorText.Proofs.Snippet.Json
import EditorText.Proofs.Snippet.LineBreaks
import EditorText.Proofs.Snippet.Lines
import EditorText.Proofs.Snippet.Messages
import EditorText.Proofs.Snippet.Pairing
import EditorText.Proofs.Snippet.Parsing
import EditorText.Proofs.Snippet.Paths
import EditorText.Proofs.Snippet.Piece
import EditorText.Proofs.Snippet.Positions
import EditorText.Proofs.Snippet.Queries
import EditorText.Proofs.Snippet.Reading
import EditorText.Proofs.Snippet.Recovery
import EditorText.Proofs.Snippet.Route
import EditorText.Proofs.Snippet.Rules
import EditorText.Proofs.Snippet.Triggers
import EditorText.Proofs.Text.Following
import EditorText.Proofs.Text.Hexadecimal
import EditorText.Proofs.Text.Replacing
import EditorText.Proofs.Text.Respacing
import EditorText.Proofs.Text.Splitting
import EditorText.Proofs.Text.Trimming
import EditorText.Proofs.Yaml.Escapes
import EditorText.Proofs.Yaml.Handing
import EditorText.Proofs.Yaml.Lexing
import EditorText.Proofs.Yaml.Loading
import EditorText.Proofs.Yaml.Nodes
import EditorText.Proofs.Yaml.Places
import EditorText.Proofs.Yaml.Plain
import EditorText.Proofs.Yaml.Printing
import EditorText.Proofs.Yaml.Quoted
import EditorText.Proofs.Yaml.Refolding
import EditorText.Region
import EditorText.Replace.Exchange
import EditorText.Replace.Expansion
import EditorText.Replace.Operation
import EditorText.Replace.Store
import EditorText.Replace.Unescape
import EditorText.Replace.Validation
import EditorText.Report.Notice
import EditorText.Report.Outcome
import EditorText.Settings.Basic
import EditorText.Settings.HostValue
import EditorText.Snippet.Expectation
import EditorText.Snippet.File
import EditorText.Snippet.Json
import EditorText.Snippet.Parse
import EditorText.Snippet.Path
import EditorText.Snippet.Position
import EditorText.Snippet.Run
import EditorText.Snippet.SyntaxError
import EditorText.Text.Basic
import EditorText.Text.Blank
import EditorText.Text.Case
import EditorText.Text.CharacterName
import EditorText.Text.Digit
import EditorText.Text.Identifier
import EditorText.Text.Letter
import EditorText.Text.Lower
import EditorText.Text.Numeral
import EditorText.Text.Printable
import EditorText.Text.Property
import EditorText.Text.Quoted
import EditorText.Text.Room
import EditorText.Text.Utf8
import EditorText.Text.Width
import EditorText.Text.Word
import EditorText.Yaml.BlockScalar
import EditorText.Yaml.Cursor
import EditorText.Yaml.FlowScalar
import EditorText.Yaml.Lexer
import EditorText.Yaml.Load
import EditorText.Yaml.Marker
import EditorText.Yaml.Merge
import EditorText.Yaml.Node
import EditorText.Yaml.PlainScalar
import EditorText.Yaml.Problem
import EditorText.Yaml.Resolve
import EditorText.Yaml.Scalar
import EditorText.Yaml.Style
import EditorText.Yaml.Token
import EditorText.Yaml.Value
import EditorText.Yaml.Written
