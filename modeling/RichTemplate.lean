import RichTemplate.Binding
import RichTemplate.Command.Inspect
import RichTemplate.Command.Options
import RichTemplate.Command.Outcome
import RichTemplate.Command.Place
import RichTemplate.Command.Render
import RichTemplate.Command.Run
import RichTemplate.Command.Template
import RichTemplate.Element
import RichTemplate.Interpolation
import RichTemplate.Interpolator
import RichTemplate.JsonText
import RichTemplate.Log
import RichTemplate.Main
import RichTemplate.Markup.Basic
import RichTemplate.Markup.Pieces
import RichTemplate.Number.Binary64
import RichTemplate.Number.Notation
import RichTemplate.Number.Read
import RichTemplate.Number.Shortest
import RichTemplate.Profile.Basic
import RichTemplate.Profile.Fault
import RichTemplate.Profile.Limits
import RichTemplate.Profile.Schema
import RichTemplate.Profile.Source
import RichTemplate.Proofs.Acceptance
import RichTemplate.Proofs.Accounting
import RichTemplate.Proofs.Composing
import RichTemplate.Proofs.Consuming
import RichTemplate.Proofs.Cutting
import RichTemplate.Proofs.Elements
import RichTemplate.Proofs.Escaping
import RichTemplate.Proofs.Exits
import RichTemplate.Proofs.Failing
import RichTemplate.Proofs.Gaps
import RichTemplate.Proofs.Grammar
import RichTemplate.Proofs.Inspection
import RichTemplate.Proofs.Limits
import RichTemplate.Proofs.Lines
import RichTemplate.Proofs.Loaded
import RichTemplate.Proofs.Locating
import RichTemplate.Proofs.Merging
import RichTemplate.Proofs.Naming
import RichTemplate.Proofs.Opacity
import RichTemplate.Proofs.Reading
import RichTemplate.Proofs.Refilling
import RichTemplate.Proofs.Registering
import RichTemplate.Proofs.Reloading
import RichTemplate.Proofs.Rendering
import RichTemplate.Proofs.Replacing
import RichTemplate.Proofs.Reporting
import RichTemplate.Proofs.Scanning
import RichTemplate.Proofs.Schema
import RichTemplate.Proofs.Serializing
import RichTemplate.Proofs.Shape
import RichTemplate.Proofs.Siblings
import RichTemplate.Proofs.Templates
import RichTemplate.Proofs.Tokenizing
import RichTemplate.Proofs.TruthValues
import RichTemplate.Proofs.Verdict
import RichTemplate.Registry
import RichTemplate.Report
import RichTemplate.Text.Decode
import RichTemplate.Text.Digit
import RichTemplate.Text.Lower
import RichTemplate.Text.Printable
import RichTemplate.Text.Quoted
import RichTemplate.Text.Word
import RichTemplate.Trace
import RichTemplate.Value.Basic
import RichTemplate.Value.Calendar
import RichTemplate.Value.Key
import RichTemplate.Value.Show
import RichTemplate.Yaml.Cursor
import RichTemplate.Yaml.Document
import RichTemplate.Yaml.Error
import RichTemplate.Yaml.Graph
import RichTemplate.Yaml.Merge
import RichTemplate.Yaml.Node
import RichTemplate.Yaml.Property
import RichTemplate.Yaml.Resolution
import RichTemplate.Yaml.Scalar
import RichTemplate.Yaml.ScalarText
import RichTemplate.Yaml.Source
import RichTemplate.Yaml.Token
import RichTemplate.Yaml.Tokens
