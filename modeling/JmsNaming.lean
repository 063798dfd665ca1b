import JmsNaming.CommandLine.Arguments
import JmsNaming.CommandLine.Help
import JmsNaming.CommandLine.Request
import JmsNaming.CommandLine.Run
import JmsNaming.ConnectionFactory
import JmsNaming.Destination
import JmsNaming.Error
import JmsNaming.Expression.Escape
import JmsNaming.Expression.Fault
import JmsNaming.Expression.Formatted
import JmsNaming.Expression.Grammar
import JmsNaming.Expression.Literal
import JmsNaming.Expression.Rule
import JmsNaming.Expression.Token
import JmsNaming.Json.Read
import JmsNaming.Json.Write
import JmsNaming.Log.Event
import JmsNaming.Log.Level
import JmsNaming.Log.Line
import JmsNaming.Log.Loggers
import JmsNaming.Log.Setup
import JmsNaming.Main
import JmsNaming.Naming.Failure
import JmsNaming.Naming.Reference
import JmsNaming.Naming.Resolve
import JmsNaming.Naming.Source
import JmsNaming.Naming.Summary
import JmsNaming.Number.Binary64
import JmsNaming.Number.Limit
import JmsNaming.Number.Reading
import JmsNaming.ObjectKind
import JmsNaming.Proofs.CommandLine.SingleFile
import JmsNaming.Proofs.CommandLine.Masking
import JmsNaming.Proofs.ConnectionFactory.Operations
import JmsNaming.Proofs.ConnectionFactory.Uri
import JmsNaming.Proofs.Json.Text
import JmsNaming.Proofs.Naming.ConnectionFactory
import JmsNaming.Proofs.Naming.Credentials
import JmsNaming.Proofs.Naming.Property
import JmsNaming.Proofs.Naming.Tls
import JmsNaming.Proofs.Number.Decimal
import JmsNaming.Proofs.Outcome
import JmsNaming.Proofs.Settings.Expansion
import JmsNaming.Proofs.Settings.Layers
import JmsNaming.Proofs.Settings.Merge
import JmsNaming.Proofs.Settings.Path
import JmsNaming.Proofs.Settings.Placeholder
import JmsNaming.Proofs.Settings.Repeats
import JmsNaming.Proofs.Settings.Lookup
import JmsNaming.Proofs.Settings.Section
import JmsNaming.Proofs.Settings.Splice
import JmsNaming.Proofs.Text.Cut
import JmsNaming.Proofs.Text.Percent
import JmsNaming.Proofs.Text.Quoted
import JmsNaming.Proofs.Text.Utf8
import JmsNaming.Proofs.Toml.Keys
import JmsNaming.Proofs.Uri.Accepted
import JmsNaming.Proofs.Uri.Parts
import JmsNaming.Proofs.Uri.Password
import JmsNaming.Proofs.Uri.Rejection
import JmsNaming.Proofs.Uri.RoundTrip
import JmsNaming.Proofs.Value.Decidable
import JmsNaming.Proofs.Value.Table
import JmsNaming.Proofs.Yaml.Keys
import JmsNaming.Settings.Basic
import JmsNaming.Settings.Binding
import JmsNaming.Settings.Files
import JmsNaming.Settings.Template
import JmsNaming.Settings.Tree
import JmsNaming.Terminal.ColorTable
import JmsNaming.Terminal.Emoji
import JmsNaming.Terminal.EmojiTable
import JmsNaming.Terminal.Handler
import JmsNaming.Terminal.Markup
import JmsNaming.Terminal.Style
import JmsNaming.Terminal.Table
import JmsNaming.Terminal.Width
import JmsNaming.Terminal.WidthTable
import JmsNaming.Terminal.Wrap
import JmsNaming.Text.Case
import JmsNaming.Text.CaseTable
import JmsNaming.Text.Character
import JmsNaming.Text.Cut
import JmsNaming.Text.DigitTable
import JmsNaming.Text.Disguise
import JmsNaming.Text.Percent
import JmsNaming.Text.PrintableTable
import JmsNaming.Text.Quoted
import JmsNaming.Text.Similarity
import JmsNaming.Text.Utf8
import JmsNaming.Text.Word
import JmsNaming.Text.WordTable
import JmsNaming.Tls
import JmsNaming.Toml.Document
import JmsNaming.Toml.Scalar
import JmsNaming.Uri.Address
import JmsNaming.Uri.Endpoint
import JmsNaming.Uri.Split
import JmsNaming.Value.Basic
import JmsNaming.Value.Kind
import JmsNaming.Value.Moment
import JmsNaming.Yaml.Document
import JmsNaming.Yaml.Node
import JmsNaming.Yaml.Place
import JmsNaming.Yaml.Plain
import JmsNaming.Yaml.Scalar
import JmsNaming.Yaml.Token
import JmsNaming.Proofs.ConnectionFactory.Invariant
import JmsNaming.Proofs.Naming.Failures
import JmsNaming.Proofs.Naming.Reads
import JmsNaming.Proofs.Naming.Changes
import JmsNaming.Proofs.ConnectionFactory.Nodes
import JmsNaming.Proofs.Log.Loggers
import JmsNaming.Proofs.Log.History
import JmsNaming.Proofs.Log.Lines
import JmsNaming.Proofs.Log.Ancestors
import JmsNaming.Proofs.Log.Inheritance
import JmsNaming.Proofs.Log.LevelMap
import JmsNaming.Proofs.Log.Emission
import JmsNaming.Proofs.Naming.Events
import JmsNaming.Proofs.Json.Values
import JmsNaming.Proofs.Terminal.Markup
import JmsNaming.Proofs.Settings.Leaves
import JmsNaming.Proofs.Settings.Apart
import JmsNaming.Proofs.CommandLine.Resolution
import JmsNaming.Proofs.CommandLine.Independence
import JmsNaming.Proofs.Naming.Number
import JmsNaming.Proofs.Naming.Destination
import JmsNaming.Proofs.Uri.Components
import JmsNaming.Proofs.Uri.Path
import JmsNaming.Proofs.Uri.Address
import JmsNaming.Proofs.Uri.Authority
import JmsNaming.Proofs.Uri.Form
import JmsNaming.Proofs.Uri.Place
import JmsNaming.Proofs.ConnectionFactory.Reading
import JmsNaming.Proofs.ConnectionFactory.Frame
import JmsNaming.Proofs.Settings.Binding
import JmsNaming.Proofs.Terminal.Message
import JmsNaming.Proofs.Terminal.Table
import JmsNaming.Proofs.CommandLine.Forms
import JmsNaming.Proofs.Terminal.Print
import JmsNaming.Proofs.CommandLine.Listing
