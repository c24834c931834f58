import Trellis.Annotated
import Trellis.Calendar
import Trellis.Chain
import Trellis.Code.Fragment
import Trellis.Code.Piece
import Trellis.Command.Basic
import Trellis.Command.Verb
import Trellis.Container.Basic
import Trellis.Datum
import Trellis.Decorate.Names
import Trellis.Decorate.Standard
import Trellis.Demo.Arena
import Trellis.Demo.Controls
import Trellis.Demo.Folder
import Trellis.Demo.Loading
import Trellis.Demo.Values
import Trellis.Demo.Wants
import Trellis.Description.Basic
import Trellis.Description.Build
import Trellis.Description.Compile
import Trellis.Description.Document
import Trellis.Description.Draft
import Trellis.Description.Reader
import Trellis.Description.Source
import Trellis.Digest
import Trellis.Eval
import Trellis.Expr.Basic
import Trellis.Expr.Names
import Trellis.Expr.Parser
import Trellis.Fault.Basic
import Trellis.Fault.Closest
import Trellis.Files
import Trellis.Html.Escape
import Trellis.Html.Reference
import Trellis.Html.Sanitize
import Trellis.Html.Token
import Trellis.Inspect.Basic
import Trellis.Inspect.Container
import Trellis.Inspect.Log
import Trellis.Inspect.Settings
import Trellis.Inspect.Syntax
import Trellis.Inspect.Value
import Trellis.Json.Reader
import Trellis.Json.Writer
import Trellis.Loader.Cache
import Trellis.Loader.Basic
import Trellis.Locale.Catalog
import Trellis.Locale.DateText
import Trellis.Locale.Dates
import Trellis.Locale.Layout
import Trellis.Locale.Layout.Reader
import Trellis.Locale.Likely
import Trellis.Locale.Match
import Trellis.Locale.Message
import Trellis.Locale.Numbers
import Trellis.Locale.Subtags
import Trellis.Locale.Symbols
import Trellis.Locale.Tag
import Trellis.Locale.Zone.Eras
import Trellis.Locale.Zone.History
import Trellis.Locale.Zone.Rules
import Trellis.Log.Event
import Trellis.Main
import Trellis.Manifest
import Trellis.Markdown.Address
import Trellis.Markdown.Block
import Trellis.Markdown.Cursor
import Trellis.Markdown.Html
import Trellis.Markdown.Inline
import Trellis.Markdown.Link
import Trellis.Markdown.Tag
import Trellis.Markup.Node
import Trellis.Markup.Reader
import Trellis.Markup.Tag
import Trellis.Moment
import Trellis.Proofs.Annotated
import Trellis.Proofs.Asked
import Trellis.Proofs.Code.Flags
import Trellis.Proofs.Code.Fragment
import Trellis.Proofs.Code.Verdict
import Trellis.Proofs.Container.Calls
import Trellis.Proofs.Container.Confined
import Trellis.Proofs.Container.Drift
import Trellis.Proofs.Container.Table
import Trellis.Proofs.Container.Hoist
import Trellis.Proofs.Container.Ranges
import Trellis.Proofs.Container.Reactive
import Trellis.Proofs.Container.Sound
import Trellis.Proofs.Container.Storage
import Trellis.Proofs.Description.Built
import Trellis.Proofs.Description.Chained
import Trellis.Proofs.Description.Checked
import Trellis.Proofs.Description.Drafted
import Trellis.Proofs.Description.Entry
import Trellis.Proofs.Description.Fold
import Trellis.Proofs.Description.Growth
import Trellis.Proofs.Description.Makes
import Trellis.Proofs.Description.Table
import Trellis.Proofs.Description.Twin
import Trellis.Proofs.Eval.Closed
import Trellis.Proofs.Expr.Grammar
import Trellis.Proofs.Expr.Parsed
import Trellis.Proofs.Expr.Paths
import Trellis.Proofs.Expr.Printed
import Trellis.Proofs.Expr.Reread
import Trellis.Proofs.Expr.RoundTrip
import Trellis.Proofs.Expr.Traversal
import Trellis.Proofs.Json.Number
import Trellis.Proofs.Json.Text
import Trellis.Proofs.Manifest
import Trellis.Proofs.Render.Contained
import Trellis.Proofs.Render.Fold
import Trellis.Proofs.Render.Shape
import Trellis.Proofs.Render.Slots
import Trellis.Proofs.Render.Styles
import Trellis.Proofs.Render.Subscripts
import Trellis.Proofs.Text.Bits
import Trellis.Proofs.Token.Lexeme
import Trellis.Proofs.Token.Scan
import Trellis.Proofs.Value.Run
import Trellis.Render.Body
import Trellis.Render.Context
import Trellis.Render.Deferred
import Trellis.Render.Html
import Trellis.Render.Interact
import Trellis.Render.Template
import Trellis.Scope
import Trellis.Segment
import Trellis.Settings.Basic
import Trellis.Shell.Basic
import Trellis.Store
import Trellis.Text.Bytes
import Trellis.Text.Case
import Trellis.Text.Decimal
import Trellis.Text.Quoted
import Trellis.Text.Ranges
import Trellis.Text.Search
import Trellis.Token.Lexeme
import Trellis.Value.Basic
import Trellis.Value.Coerce
import Trellis.Value.Each
import Trellis.Value.Json
import Trellis.Value.Machine
import Trellis.Value.Memory
import Trellis.Value.Methods
import Trellis.Value.Portrait
import Trellis.Value.Property
import Trellis.Yaml.Decode
import Trellis.Yaml.Reader
import Trellis.Yaml.Scalar
import Trellis.Yaml.Token
import Trellis.Yaml.Writer
import Trellis.Yaml.Written
import Trellis.Proofs.Description.Recompiled
import Trellis.Proofs.Description.Restored
import Trellis.Proofs.Description.Written
import Trellis.Proofs.Loader.Cycles
import Trellis.Proofs.Readable
import Trellis.Proofs.Token.Tiling
import Trellis.Proofs.Expr.Precedence
import Trellis.Proofs.Segment
import Trellis.Proofs.Markup.Mask
import Trellis.Proofs.Markup.Quotes
import Trellis.Proofs.Html.Sources
import Trellis.Proofs.Markup.Places
import Trellis.Proofs.Value.Tame
import Trellis.Proofs.Eval.Frame
import Trellis.Proofs.Render.Frame
import Trellis.Proofs.Chain
import Trellis.Proofs.Closest
import Trellis.Proofs.Render.Chains
import Trellis.Proofs.Expr.Blamed
import Trellis.Proofs.Expr.Nested
import Trellis.Proofs.Render.Keys
import Trellis.Proofs.Render.Loops
import Trellis.Proofs.Eval.Steps
import Trellis.Proofs.Value.Pervasive
import Trellis.Proofs.Eval.Pervasive
import Trellis.Proofs.Render.Pervasive
import Trellis.Proofs.Eval.Reading
import Trellis.Proofs.Render.Ledger
import Trellis.Proofs.Eval.Targets
import Trellis.Proofs.Eval.Data
import Trellis.Proofs.Eval.Bindings
import Trellis.Proofs.Markup.Requests
import Trellis.Proofs.Locale.Outline
import Trellis.Proofs.Code.Translations
import Trellis.Proofs.Description.Entered
import Trellis.Proofs.Description.Translations
import Trellis.Proofs.Loader.Recency
import Trellis.Proofs.Eval.Snapshot
import Trellis.Proofs.Files
import Trellis.Proofs.Loader.Below
import Trellis.Proofs.Html.Kept
import Trellis.Proofs.Shell
import Trellis.Proofs.Loader.Reuse
