import StaticWiring.Ascending
import StaticWiring.Build
import StaticWiring.Capture.Basic
import StaticWiring.Capture.Task
import StaticWiring.ClassForest.Basic
import StaticWiring.ClassForest.Distribution
import StaticWiring.ClassForest.Rendering
import StaticWiring.ClassPath
import StaticWiring.ClassPath.Application
import StaticWiring.CommandLine
import StaticWiring.Contributor
import StaticWiring.Decimal
import StaticWiring.Definition.Basic
import StaticWiring.Definition.Catalog
import StaticWiring.Definition.Indexed
import StaticWiring.Environment.Basic
import StaticWiring.Environment.Load
import StaticWiring.Environment.Placeholder
import StaticWiring.Failure
import StaticWiring.FileTree
import StaticWiring.Generation
import StaticWiring.Java.CompilationUnit
import StaticWiring.Java.Literal
import StaticWiring.Java.Scope
import StaticWiring.Java.Syntax
import StaticWiring.Json.Basic
import StaticWiring.Json.Printer
import StaticWiring.Json.Reader
import StaticWiring.Json.Record
import StaticWiring.Json.Token
import StaticWiring.Main
import StaticWiring.Metadata.Access
import StaticWiring.Metadata.Basic
import StaticWiring.Metadata.Decode
import StaticWiring.Metadata.Encode
import StaticWiring.Metadata.Hint
import StaticWiring.NativeConfig.Basic
import StaticWiring.NativeConfig.Compiled
import StaticWiring.NativeConfig.Descriptor
import StaticWiring.NativeConfig.Hints
import StaticWiring.Options.Basic
import StaticWiring.Options.Codec
import StaticWiring.Proofs.Ascending
import StaticWiring.Proofs.Capture.Completion
import StaticWiring.Proofs.Capture.Conditions
import StaticWiring.Proofs.Capture.FactoryMethods
import StaticWiring.Proofs.Capture.History
import StaticWiring.Proofs.Capture.Plain
import StaticWiring.Proofs.Capture.Scan
import StaticWiring.Proofs.Capture.Shape
import StaticWiring.Proofs.Capture.Steps
import StaticWiring.Proofs.Capture.Termination
import StaticWiring.Proofs.ClassForest.Distribution
import StaticWiring.Proofs.ClassForest.Extension
import StaticWiring.Proofs.ClassForest.Growth
import StaticWiring.Proofs.ClassForest.Links
import StaticWiring.Proofs.ClassForest.Pieces
import StaticWiring.Proofs.ClassForest.Placement
import StaticWiring.Proofs.ClassPath.Hierarchy
import StaticWiring.Proofs.ClassPath.Lineage
import StaticWiring.Proofs.ClassPath.Order
import StaticWiring.Proofs.ClassPath.Package
import StaticWiring.Proofs.Context.Generation
import StaticWiring.Proofs.Context.Import
import StaticWiring.Proofs.Context.Loaders
import StaticWiring.Proofs.Context.Lookup
import StaticWiring.Proofs.Context.Order
import StaticWiring.Proofs.Context.Plain
import StaticWiring.Proofs.Context.Sources
import StaticWiring.Proofs.Context.Tests
import StaticWiring.Proofs.Definition.Candidates
import StaticWiring.Proofs.Definition.Catalog
import StaticWiring.Proofs.Definition.Indexed
import StaticWiring.Proofs.Definition.Selection
import StaticWiring.Proofs.Environment.Calls
import StaticWiring.Proofs.Environment.Concatenation
import StaticWiring.Proofs.Environment.Derivation
import StaticWiring.Proofs.Environment.Evaluation
import StaticWiring.Proofs.Environment.Files
import StaticWiring.Proofs.Environment.Inlined
import StaticWiring.Proofs.Environment.Nesting
import StaticWiring.Proofs.Environment.Precedence
import StaticWiring.Proofs.Generation.Resources
import StaticWiring.Proofs.Java.Integer
import StaticWiring.Proofs.Java.Literal
import StaticWiring.Proofs.Java.Scope
import StaticWiring.Proofs.Java.ShortNames
import StaticWiring.Proofs.Java.Source
import StaticWiring.Proofs.Java.Spelling
import StaticWiring.Proofs.Java.Variables
import StaticWiring.Proofs.Json.Record
import StaticWiring.Proofs.Json.RoundTrip
import StaticWiring.Proofs.Json.Token
import StaticWiring.Proofs.Lists
import StaticWiring.Proofs.Metadata.RoundTrip
import StaticWiring.Proofs.NativeConfig.Compiled
import StaticWiring.Proofs.NativeConfig.Coverage
import StaticWiring.Proofs.NativeConfig.Description
import StaticWiring.Proofs.NativeConfig.Facts
import StaticWiring.Proofs.NativeConfig.Hints
import StaticWiring.Proofs.NativeConfig.Loading
import StaticWiring.Proofs.NativeConfig.Resource
import StaticWiring.Proofs.NativeConfig.Union
import StaticWiring.Proofs.Properties.Writing
import StaticWiring.Proofs.Regex.Between
import StaticWiring.Proofs.Regex.ClosedSymbols
import StaticWiring.Proofs.Regex.Closing
import StaticWiring.Proofs.Regex.Front
import StaticWiring.Proofs.Regex.Language
import StaticWiring.Proofs.Regex.LastSymbol
import StaticWiring.Proofs.Regex.Literal
import StaticWiring.Proofs.Regex.Parts
import StaticWiring.Proofs.Regex.Reach
import StaticWiring.Proofs.RegexEngine
import StaticWiring.Proofs.Registration.Locals
import StaticWiring.Proofs.Registration.Lookups
import StaticWiring.Proofs.Registration.Mentions
import StaticWiring.Proofs.Schedule.Counters
import StaticWiring.Proofs.Schedule.Cycle
import StaticWiring.Proofs.Schedule.Final
import StaticWiring.Proofs.Schedule.Least
import StaticWiring.Proofs.Schedule.Order
import StaticWiring.Proofs.Schedule.State
import StaticWiring.Proofs.TestGroup
import StaticWiring.Proofs.TestGroup.Grouping
import StaticWiring.Proofs.Text.Digits
import StaticWiring.Proofs.Text.Lines
import StaticWiring.Proofs.Text.Numbered
import StaticWiring.Proofs.TypeRef.Grammar
import StaticWiring.Proofs.Wiring.Choice
import StaticWiring.Proofs.Wiring.Injections
import StaticWiring.Proofs.Wiring.Literal
import StaticWiring.Proofs.Wiring.Members
import StaticWiring.Proofs.Wiring.Plain
import StaticWiring.Proofs.Wiring.Reordering
import StaticWiring.Proofs.Wiring.Requests
import StaticWiring.Proofs.Wiring.Resolution
import StaticWiring.Proofs.Wiring.Similar
import StaticWiring.Proofs.Wiring.Supply
import StaticWiring.Proofs.Wiring.Value
import StaticWiring.Properties
import StaticWiring.Regex.Basic
import StaticWiring.Regex.Bracket
import StaticWiring.Regex.CharSet
import StaticWiring.Regex.Encoding
import StaticWiring.Regex.Engine
import StaticWiring.Regex.Escape
import StaticWiring.Regex.Machine
import StaticWiring.Regex.Parser
import StaticWiring.Regex.SetTerm
import StaticWiring.Regex.Setting
import StaticWiring.Regex.Size
import StaticWiring.Regex.Symbol
import StaticWiring.Regex.Walk
import StaticWiring.Regex.WordTree
import StaticWiring.RegexEngine
import StaticWiring.Registration
import StaticWiring.Schedule
import StaticWiring.TestGroup
import StaticWiring.Text.Blank
import StaticWiring.Text.Cut
import StaticWiring.Text.Hexadecimal
import StaticWiring.Text.Letter
import StaticWiring.Text.LetterTable
import StaticWiring.Toml.Document
import StaticWiring.Toml.Scalar
import StaticWiring.TypeName
import StaticWiring.TypeRef.Basic
import StaticWiring.TypeRef.Parser
import StaticWiring.Wiring.Attempt
import StaticWiring.Wiring.Basic
import StaticWiring.Wiring.Choice
import StaticWiring.Wiring.Literal
import StaticWiring.Wiring.Point
import StaticWiring.Wiring.Resolution
