import YamlSchema.CommandLine
import YamlSchema.Decimal.Double
import YamlSchema.Decimal.Shortest
import YamlSchema.Directive
import YamlSchema.Discovery
import YamlSchema.Document
import YamlSchema.Failure
import YamlSchema.Files.Path
import YamlSchema.Files.System
import YamlSchema.Glob.Expand
import YamlSchema.Glob.Pattern
import YamlSchema.Main
import YamlSchema.OrderedMap
import YamlSchema.Pattern.Automaton
import YamlSchema.Pattern.Basic
import YamlSchema.Pattern.CharClass
import YamlSchema.Pattern.Expression
import YamlSchema.Pattern.Plain
import YamlSchema.Pattern.Search
import YamlSchema.Pattern.Size
import YamlSchema.Registry
import YamlSchema.Report
import YamlSchema.Run
import YamlSchema.Schema.Assertion
import YamlSchema.Schema.Draft
import YamlSchema.Schema.Evaluate
import YamlSchema.Schema.Format
import YamlSchema.Schema.Host
import YamlSchema.Schema.InternationalHost
import YamlSchema.Schema.Link
import YamlSchema.Schema.Lowering
import YamlSchema.Schema.Mailbox
import YamlSchema.Schema.MetaSchema.Basic
import YamlSchema.Schema.MetaSchema.Draft2019
import YamlSchema.Schema.MetaSchema.Draft2020
import YamlSchema.Schema.MetaSchema.Draft4
import YamlSchema.Schema.MetaSchema.Draft6
import YamlSchema.Schema.MetaSchema.Draft7
import YamlSchema.Schema.MetaSchema.Published
import YamlSchema.Schema.Moment
import YamlSchema.Schema.Node
import YamlSchema.Schema.Reading
import YamlSchema.Schema.Resources
import YamlSchema.Schema.Uri
import YamlSchema.Schema.Validator
import YamlSchema.Schema.Violation
import YamlSchema.Settings
import YamlSchema.Shorthand
import YamlSchema.Text.Blank
import YamlSchema.Text.Punycode
import YamlSchema.Text.Shown
import YamlSchema.Text.Split
import YamlSchema.Text.Unicode.Age
import YamlSchema.Text.Unicode.CaseFold
import YamlSchema.Text.Unicode.Category
import YamlSchema.Text.Unicode.Composition
import YamlSchema.Text.Unicode.Direction
import YamlSchema.Text.Unicode.HostMapping
import YamlSchema.Text.Unicode.Joining
import YamlSchema.Text.Unicode.Property
import YamlSchema.Text.Unicode.Ranges
import YamlSchema.Text.Unicode.Script
import YamlSchema.Text.Unicode.Segmentation
import YamlSchema.Text.Utf8
import YamlSchema.Tree.Basic
import YamlSchema.Tree.Pointer
import YamlSchema.Tree.Printer
import YamlSchema.Tree.Reader
import YamlSchema.Tree.Same
import YamlSchema.Verdict
import YamlSchema.Yaml.Cursor
import YamlSchema.Yaml.Decode
import YamlSchema.Yaml.Event
import YamlSchema.Yaml.Fault
import YamlSchema.Yaml.Resolve
import YamlSchema.Yaml.ScalarText
import YamlSchema.Yaml.Stream
import YamlSchema.Yaml.Tag
import YamlSchema.Yaml.Token
import YamlSchema.Yaml.Value
import YamlSchema.Proofs.Registry.Batch
import YamlSchema.Proofs.Registry.Mirror
import YamlSchema.Proofs.Registry.Accounting
import YamlSchema.Proofs.Schema.Gathering
import YamlSchema.Proofs.Registry.Stale
import YamlSchema.Proofs.Schema.Agreement
import YamlSchema.Proofs.Schema.Draft7
import YamlSchema.Proofs.Schema.Linking
import YamlSchema.Proofs.Schema.MetaSchema
import YamlSchema.Proofs.Schema.Standalone
import YamlSchema.Proofs.Shorthand.Outline
import YamlSchema.Proofs.Shorthand.Compilation
import YamlSchema.Proofs.Shorthand.Meaning
import YamlSchema.Proofs.Tree.Pointer
import YamlSchema.Proofs.Shorthand.Errors
import YamlSchema.Proofs.Shorthand.Reports
import YamlSchema.Proofs.Registry.Success
import YamlSchema.Proofs.Registry.Order
import YamlSchema.Proofs.Registry.Composition
import YamlSchema.Proofs.Registry.Judgement
import YamlSchema.Proofs.Registry.Stated
import YamlSchema.Proofs.Registry.Permanence
import YamlSchema.Proofs.Registry.Splitting
import YamlSchema.Proofs.Run.Entry
import YamlSchema.Proofs.Run.Selection
import YamlSchema.Proofs.Run.ExitCode
import YamlSchema.Proofs.Run.Transcript
import YamlSchema.Proofs.Schema.Likeness
import YamlSchema.Proofs.Tree.Part
import YamlSchema.Proofs.Schema.Descent
import YamlSchema.Proofs.Schema.DocumentUri
import YamlSchema.Proofs.Schema.Nameless
import YamlSchema.Proofs.Schema.Naming
import YamlSchema.Proofs.Schema.Rebuilding
import YamlSchema.Proofs.Schema.Retrieval
import YamlSchema.Proofs.Schema.Transfer
import YamlSchema.Proofs.Schema.Referring
import YamlSchema.Proofs.Registry.Transparency
import YamlSchema.Proofs.Directive.Extraction
import YamlSchema.Proofs.Registry.ShortAnswer
import YamlSchema.Proofs.Run.Exclusion
import YamlSchema.Proofs.Verdict.RoundTrip
import YamlSchema.Proofs.Registry.Atomicity
import YamlSchema.Proofs.Registry.Blame
import YamlSchema.Proofs.Schema.Lowering
import YamlSchema.Proofs.Schema.Origin
import YamlSchema.Proofs.Schema.Finding
import YamlSchema.Proofs.Schema.Location
import YamlSchema.Proofs.Schema.Reports
import YamlSchema.Proofs.Schema.Parameters
import YamlSchema.Proofs.Tree.Shape
import YamlSchema.Proofs.Schema.Members
import YamlSchema.Proofs.Schema.Position
import YamlSchema.Proofs.Schema.Shedding
import YamlSchema.Proofs.Schema.PseudoType
import YamlSchema.Proofs.Schema.Evaluated
import YamlSchema.Proofs.Shorthand.Structure
import YamlSchema.Proofs.Directive.Lines
import YamlSchema.Proofs.Run.Partition
import YamlSchema.Proofs.Yaml.Conversion
import YamlSchema.Proofs.Decimal.Rounding
import YamlSchema.Proofs.Decimal.Shortest
import YamlSchema.Proofs.Decimal.Written
import YamlSchema.Proofs.Yaml.Members
import YamlSchema.Proofs.Glob.Closure
import YamlSchema.Proofs.Glob.Quoting
import YamlSchema.Proofs.Glob.Subtree
import YamlSchema.Proofs.Glob.Solitary
import YamlSchema.Proofs.Run.Independence
import YamlSchema.Proofs.Text.Control
import YamlSchema.Proofs.Schema.Wording
import YamlSchema.Proofs.Yaml.Wording
import YamlSchema.Proofs.Files.Within
import YamlSchema.Proofs.Run.Wording
import YamlSchema.Proofs.Run.Lines
import YamlSchema.Proofs.Tree.Lacking
import YamlSchema.Proofs.Schema.Supply
import YamlSchema.Proofs.Schema.Lacking
import YamlSchema.Proofs.Yaml.Lacking
import YamlSchema.Proofs.Run.Colour
