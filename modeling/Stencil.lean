import Stencil.CommandLine.Arguments
import Stencil.CommandLine.Reader
import Stencil.CommandLine.Run
import Stencil.Commit
import Stencil.Condition
import Stencil.Decimal.Binary
import Stencil.Decimal.Reading
import Stencil.Decimal.Shortest
import Stencil.Diff.Compact
import Stencil.Diff.Lines
import Stencil.Diff.Script
import Stencil.Diff.Unified
import Stencil.Disk.Basic
import Stencil.Disk.Fault
import Stencil.Disk.FileTree
import Stencil.Disk.Files
import Stencil.Disk.Route
import Stencil.Expression.Arithmetic
import Stencil.Expression.Error
import Stencil.Expression.Eval
import Stencil.Expression.Filter
import Stencil.Expression.Parser
import Stencil.Expression.Syntax
import Stencil.Expression.Token
import Stencil.Expression.Value
import Stencil.Failure
import Stencil.Generator
import Stencil.Glob.Error
import Stencil.Glob.Match
import Stencil.Glob.Pattern
import Stencil.Identifier.Casing
import Stencil.Identifier.Plural
import Stencil.Json.Number
import Stencil.Json.Reader
import Stencil.Json.Value
import Stencil.Layout
import Stencil.Main
import Stencil.Manifest.Reader
import Stencil.Manifest.Schema
import Stencil.Options.Choice
import Stencil.Options.Destination
import Stencil.Options.Normalized
import Stencil.Options.Raw
import Stencil.Plan
import Stencil.Proofs.Commit.Effect
import Stencil.Proofs.Commit.Outcome
import Stencil.Proofs.Commit.Progress
import Stencil.Proofs.Commit.Rollback
import Stencil.Proofs.Commit.Settled
import Stencil.Proofs.Commit.Steps
import Stencil.Proofs.Commit.Unforced
import Stencil.Proofs.Diff.Changes
import Stencil.Proofs.Diff.Compact
import Stencil.Proofs.Diff.Hunks
import Stencil.Proofs.Diff.Patch
import Stencil.Proofs.Diff.Reading
import Stencil.Proofs.Diff.Script
import Stencil.Proofs.Diff.Unified
import Stencil.Proofs.Disk.Calls
import Stencil.Proofs.Disk.Walk
import Stencil.Proofs.Expression.Evaluation
import Stencil.Proofs.Expression.Lexing
import Stencil.Proofs.Expression.Nesting
import Stencil.Proofs.Expression.Parts
import Stencil.Proofs.Generator.Accounting
import Stencil.Proofs.Generator.Failing
import Stencil.Proofs.Generator.Order
import Stencil.Proofs.Generator.Repeat
import Stencil.Proofs.Generator.Requests
import Stencil.Proofs.Identifier.Words
import Stencil.Proofs.Layout.Collision
import Stencil.Proofs.Layout.Flat
import Stencil.Proofs.Layout.Rejection
import Stencil.Proofs.Options.Canonical
import Stencil.Proofs.Options.Choice
import Stencil.Proofs.Options.Destination
import Stencil.Proofs.Options.Mode
import Stencil.Proofs.Options.Names
import Stencil.Proofs.Options.Operations
import Stencil.Proofs.Options.Precedence
import Stencil.Proofs.Preview.Available
import Stencil.Proofs.Preview.Clean
import Stencil.Proofs.Preview.Difference
import Stencil.Proofs.Preview.Faithful
import Stencil.Proofs.Preview.Plan
import Stencil.Proofs.Preview.Query
import Stencil.Proofs.Result
import Stencil.Proofs.Schematic.Comparison
import Stencil.Proofs.Schematic.Gating
import Stencil.Proofs.Schematic.Loading
import Stencil.Proofs.Schematic.RunMode
import Stencil.Proofs.Schematic.Selection
import Stencil.Proofs.Staging.Inside
import Stencil.Proofs.Staging.Place
import Stencil.Proofs.Staging.Stage
import Stencil.Proofs.Template.Bytes
import Stencil.Proofs.Template.Closing
import Stencil.Proofs.Template.Concatenation
import Stencil.Proofs.Template.Filters
import Stencil.Proofs.Template.Rendering
import Stencil.Proofs.Template.Scanning
import Stencil.Proofs.Template.Variables
import Stencil.Proofs.Text.Bytes
import Stencil.Proofs.Text.Pieces
import Stencil.Proofs.Text.Replace
import Stencil.Proofs.Text.Strip
import Stencil.Schematic.Library
import Stencil.Schematic.Node
import Stencil.Schematic.Source
import Stencil.SortedMap
import Stencil.Staging
import Stencil.Template.Bytes
import Stencil.Template.Context
import Stencil.Template.Placeholder
import Stencil.Template.Render
import Stencil.Text.Lossy
import Stencil.Text.Split
import Stencil.Unicode.CaseMapping
import Stencil.Unicode.Character
import Stencil.Unicode.Letter
import Stencil.Unicode.LetterCase
import Stencil.Unicode.Table
import Stencil.Unicode.Visible
import Stencil.Yaml.Cursor
import Stencil.Yaml.Error
import Stencil.Yaml.Node
import Stencil.Yaml.Property
import Stencil.Yaml.Resolve
import Stencil.Yaml.Scalar
import Stencil.Yaml.Token
