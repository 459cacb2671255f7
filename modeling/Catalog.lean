import Catalog.Command.Arguments
import Catalog.Command.Config
import Catalog.Command.Line
import Catalog.Command.Run
import Catalog.Failure
import Catalog.FileTree.Basic
import Catalog.FileTree.Write
import Catalog.Json.Basic
import Catalog.Json.Parser
import Catalog.Json.Printer
import Catalog.Main
import Catalog.ModuleName
import Catalog.Number.Binary64
import Catalog.Number.Numeral
import Catalog.Number.Shortest
import Catalog.Path.Basic
import Catalog.Path.Glob
import Catalog.Path.Relevance
import Catalog.Progress
import Catalog.Proofs.Command.Contract
import Catalog.Proofs.Command.Output
import Catalog.Proofs.FileTree.Frame
import Catalog.Proofs.FileTree.Write
import Catalog.Record.Basic
import Catalog.Record.Changes
import Catalog.Record.Snapshot
import Catalog.Resolve.Constant
import Catalog.Resolve.Name
import Catalog.Resolve.Query
import Catalog.Scan.Basic
import Catalog.Scan.Conflicts
import Catalog.Scan.Constructor
import Catalog.Scan.Metadata
import Catalog.Scan.Options
import Catalog.Scan.Registration
import Catalog.Scan.Tracing
import Catalog.Scope.Basic
import Catalog.Scope.Build
import Catalog.Scope.Steps
import Catalog.Source.Listing
import Catalog.Source.Set
import Catalog.Source.Unit
import Catalog.Syntax.Lexer
import Catalog.Syntax.Literal
import Catalog.Syntax.Node
import Catalog.Syntax.Number
import Catalog.Syntax.Numbering
import Catalog.Syntax.Parse
import Catalog.Syntax.Parser.Basic
import Catalog.Syntax.Parser.Expression
import Catalog.Syntax.Parser.Pattern
import Catalog.Syntax.Parser.Statement
import Catalog.Syntax.Parser.Target
import Catalog.Syntax.Token
import Catalog.Syntax.Traversal
import Catalog.Text.Basic
import Catalog.Text.Blank
import Catalog.Text.Case
import Catalog.Text.Composition
import Catalog.Text.Decomposition
import Catalog.Text.Identifier
import Catalog.Text.Normal
import Catalog.Text.Preview
import Catalog.Text.Printable
import Catalog.Text.Quoted
import Catalog.Text.Ranges
import Catalog.Text.Table
import Catalog.Yaml.Cursor
import Catalog.Yaml.Error
import Catalog.Yaml.Lexer
import Catalog.Yaml.Node
import Catalog.Yaml.Printer
import Catalog.Yaml.Scalar
import Catalog.Yaml.Tag
import Catalog.Yaml.Token
import Catalog.Yaml.Value
import Catalog.Proofs.Scan.Tracing
import Catalog.Proofs.Scan.Outcome
import Catalog.Proofs.Scan.Records
import Catalog.Proofs.Syntax.Nodes
import Catalog.Proofs.Syntax.Shape
import Catalog.Proofs.Scope.Reading
import Catalog.Proofs.Scope.Building
import Catalog.Proofs.Scope.Bindings
import Catalog.Proofs.Syntax.Expression
import Catalog.Proofs.Syntax.Statement
import Catalog.Proofs.Scope.Modules
import Catalog.Proofs.Resolve.Redirects
import Catalog.Proofs.Resolve.Ending
import Catalog.Proofs.Resolve.Naming
import Catalog.Proofs.Resolve.Reexports
import Catalog.Proofs.Source.Reached
import Catalog.Proofs.Resolve.Transparency
import Catalog.Proofs.Resolve.Evaluation
import Catalog.Proofs.Resolve.Constants
import Catalog.Proofs.Resolve.ImportedConstants
import Catalog.Proofs.Source.Sessions
import Catalog.Proofs.Scope.Exchange
import Catalog.Proofs.Resolve.StarImports
import Catalog.Proofs.Yaml.Quoted
import Catalog.Proofs.Yaml.Quoting
import Catalog.Proofs.Yaml.Plain
import Catalog.Proofs.Yaml.Characters
import Catalog.Proofs.Yaml.Tokens
import Catalog.Proofs.Yaml.Document
import Catalog.Proofs.Yaml.Values
import Catalog.Proofs.Record.RoundTrip
import Catalog.Proofs.FileTree.Replacing
import Catalog.Proofs.FileTree.Rewriting
import Catalog.Proofs.Source.Files
import Catalog.Proofs.Command.Rescan
import Catalog.Proofs.Syntax.Renaming
import Catalog.Proofs.Scope.Renaming
import Catalog.Proofs.Scope.Names
import Catalog.Proofs.Source.Agreement
import Catalog.Proofs.Resolve.Alike
import Catalog.Proofs.Resolve.Simulation
import Catalog.Proofs.Resolve.Vocabulary
import Catalog.Proofs.Scan.Simulation
import Catalog.Proofs.Scan.Units
import Catalog.Proofs.Scan.Spelling
import Catalog.Proofs.Scan.Vocabulary
import Catalog.Proofs.FileTree.Plain
import Catalog.Proofs.Source.Locations
import Catalog.Proofs.Scan.Locations
import Catalog.Proofs.Scope.Layout
import Catalog.Proofs.Scope.Occurrences
import Catalog.Proofs.Scope.Laying
import Catalog.Proofs.Scope.Homes
import Catalog.Proofs.Scope.Table
import Catalog.Proofs.Scope.Nesting
import Catalog.Proofs.Scope.Correspondence
import Catalog.Proofs.Yaml.Unambiguous
import Catalog.Proofs.Record.Patch
import Catalog.Proofs.Record.Faults
import Catalog.Proofs.Command.Plan
import Catalog.Proofs.Command.Escapes
import Catalog.Proofs.Text.Sorted
import Catalog.Proofs.Source.Listing
import Catalog.Proofs.Command.Accounting
import Catalog.Proofs.Scope.Parts
import Catalog.Proofs.Scope.Balance
import Catalog.Proofs.Resolve.ClassPaths
import Catalog.Proofs.Scope.Definitions
import Catalog.Proofs.Scan.Constructors
import Catalog.Proofs.Source.RelativeImports
import Catalog.Proofs.Scan.Conflicts
import Catalog.Proofs.Command.Layers
import Catalog.Proofs.Syntax.Walks
import Catalog.Proofs.Text.Preview
import Catalog.Proofs.Resolve.Splitting
