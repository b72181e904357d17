import Statecharts.Bundle.Basic
import Statecharts.Bundle.Error
import Statecharts.Bundle.Read
import Statecharts.Bundle.Schema
import Statecharts.Bundle.Write
import Statecharts.Chart.Basic
import Statecharts.Chart.Edit
import Statecharts.Chart.Validation
import Statecharts.CommandLine.Grammar
import Statecharts.CommandLine.Invocation
import Statecharts.CommandLine.Run
import Statecharts.CommandLine.Usage
import Statecharts.CommandLine.UsageError
import Statecharts.Commands.Build
import Statecharts.Commands.Inspect
import Statecharts.Commands.Outcome
import Statecharts.Compilation.Elaborate
import Statecharts.Compilation.Source
import Statecharts.Conformance.Judgement
import Statecharts.Conformance.Suite
import Statecharts.Decimal.Notation
import Statecharts.Decimal.Read
import Statecharts.Decimal.Shortest
import Statecharts.Description.Scan
import Statecharts.Description.Segment
import Statecharts.Description.Token
import Statecharts.Files.Access
import Statecharts.Files.FileTree
import Statecharts.Files.Path
import Statecharts.Json.Agreement
import Statecharts.Json.Basic
import Statecharts.Json.Cursor
import Statecharts.Json.Error
import Statecharts.Json.Print
import Statecharts.Json.Read
import Statecharts.Json.ReadNumber
import Statecharts.Json.ReadString
import Statecharts.Json.Schema
import Statecharts.Main
import Statecharts.Project.Basic
import Statecharts.Project.Bundles
import Statecharts.Project.Read
import Statecharts.Proofs.Bundle.Accepted
import Statecharts.Proofs.Bundle.ByName
import Statecharts.Proofs.Bundle.Content
import Statecharts.Proofs.Bundle.FirstFault
import Statecharts.Proofs.Bundle.Following
import Statecharts.Proofs.Bundle.Layout
import Statecharts.Proofs.Bundle.Lookup
import Statecharts.Proofs.Bundle.Projection
import Statecharts.Proofs.Bundle.ReadBack
import Statecharts.Proofs.Bundle.Rebuild
import Statecharts.Proofs.Chart.Ancestors
import Statecharts.Proofs.Chart.Closed
import Statecharts.Proofs.Chart.DefaultEntry
import Statecharts.Proofs.Chart.Edited
import Statecharts.Proofs.Chart.Forest
import Statecharts.Proofs.Chart.Groups
import Statecharts.Proofs.Chart.Hierarchy
import Statecharts.Proofs.Chart.Renaming
import Statecharts.Proofs.Chart.Reordering
import Statecharts.Proofs.Chart.Strict
import Statecharts.Proofs.Chart.Validation
import Statecharts.Proofs.Chart.Walk
import Statecharts.Proofs.CommandLine.Arguments
import Statecharts.Proofs.CommandLine.Flags
import Statecharts.Proofs.Commands.Build
import Statecharts.Proofs.Commands.Presentation
import Statecharts.Proofs.Commands.Test
import Statecharts.Proofs.Commands.Validate
import Statecharts.Proofs.Compilation.Naming
import Statecharts.Proofs.Conformance.Fixtures
import Statecharts.Proofs.Description.Layout
import Statecharts.Proofs.Description.LineBreaks
import Statecharts.Proofs.Description.Partition
import Statecharts.Proofs.Description.Reading
import Statecharts.Proofs.Files.Changes
import Statecharts.Proofs.Files.Components
import Statecharts.Proofs.Files.Listing
import Statecharts.Proofs.Json.Agreement
import Statecharts.Proofs.Json.Ordered
import Statecharts.Proofs.Json.ReadBack
import Statecharts.Proofs.Json.Schema
import Statecharts.Proofs.Project.Bundles
import Statecharts.Proofs.Project.Naming
import Statecharts.Proofs.Resolution.Acceptance
import Statecharts.Proofs.Resolution.Adding
import Statecharts.Proofs.Resolution.Cycles
import Statecharts.Proofs.Resolution.Declaration
import Statecharts.Proofs.Resolution.FirstFault
import Statecharts.Proofs.Resolution.LinkedForest
import Statecharts.Proofs.Resolution.Linking
import Statecharts.Proofs.Resolution.References
import Statecharts.Proofs.Resolution.Renaming
import Statecharts.Proofs.Resolution.Resolved
import Statecharts.Proofs.Resolution.Strict
import Statecharts.Proofs.Resolution.Sweep
import Statecharts.Proofs.Signature.Grammar
import Statecharts.Proofs.Signature.Pieces
import Statecharts.Proofs.Signature.RoundTrip
import Statecharts.Proofs.Tap.ReadBack
import Statecharts.Proofs.Text.Lines
import Statecharts.Records.Basic
import Statecharts.Records.Json
import Statecharts.Records.Yaml
import Statecharts.Resolution.Build
import Statecharts.Resolution.Error
import Statecharts.Signature.Argument
import Statecharts.Signature.Parse
import Statecharts.Tap.Report
import Statecharts.Text.CharClass
import Statecharts.Text.Invisible
import Statecharts.Text.Messages
import Statecharts.Text.Similarity
import Statecharts.Toml.Decode
import Statecharts.Toml.Document
import Statecharts.Toml.Error
import Statecharts.Toml.Fault
import Statecharts.Toml.Item
import Statecharts.Toml.Number
import Statecharts.Toml.Quoted
import Statecharts.Toml.Value
import Statecharts.Yaml.BlockScalar
import Statecharts.Yaml.Cursor
import Statecharts.Yaml.Decode
import Statecharts.Yaml.Event
import Statecharts.Yaml.FlowScalar
import Statecharts.Yaml.Node
import Statecharts.Yaml.PlainValue
import Statecharts.Yaml.SyntaxError
import Statecharts.Yaml.Tag
import Statecharts.Yaml.Token
import Statecharts.Yaml.TokenStream
