import FluentWrap.Class.Declaration
import FluentWrap.Class.Imports
import FluentWrap.Class.Model
import FluentWrap.Class.Source
import FluentWrap.Command.Failure
import FluentWrap.Command.Generate
import FluentWrap.Command.Init
import FluentWrap.Command.Request
import FluentWrap.Command.Settings
import FluentWrap.Command.ShowPlan
import FluentWrap.CommandLine.Option
import FluentWrap.CommandLine.Parse
import FluentWrap.CommandLine.Run
import FluentWrap.CommandLine.Scan
import FluentWrap.CommandLine.Usage
import FluentWrap.Config.Basic
import FluentWrap.Config.Planning
import FluentWrap.Config.Search
import FluentWrap.Config.Validation
import FluentWrap.Data.Basic
import FluentWrap.Data.Fields
import FluentWrap.Dictionary
import FluentWrap.Error
import FluentWrap.Event
import FluentWrap.Files.IoError
import FluentWrap.Files.Path
import FluentWrap.Files.Tree
import FluentWrap.Generator
import FluentWrap.Host.Basic
import FluentWrap.Host.Clock
import FluentWrap.Host.Session
import FluentWrap.Interpreter
import FluentWrap.Json.Printer
import FluentWrap.Json.Reader
import FluentWrap.Main
import FluentWrap.Metadata.Manifest
import FluentWrap.Metadata.Registry
import FluentWrap.NameSet
import FluentWrap.Naming.Derived
import FluentWrap.Naming.Identifier
import FluentWrap.Naming.Pattern
import FluentWrap.Naming.QualifiedName
import FluentWrap.Plan.Basic
import FluentWrap.Plan.Candidate
import FluentWrap.Plan.Encoding
import FluentWrap.Plan.Listing
import FluentWrap.Plan.Member
import FluentWrap.Plan.Planner
import FluentWrap.Plan.Template
import FluentWrap.Predicate
import FluentWrap.Proofs.Class.Building
import FluentWrap.Proofs.Class.Coherence
import FluentWrap.Proofs.Class.Declaring
import FluentWrap.Proofs.Class.Edits
import FluentWrap.Proofs.Class.Imports
import FluentWrap.Proofs.Class.Layout
import FluentWrap.Proofs.Class.Nesting
import FluentWrap.Proofs.Class.Overloads
import FluentWrap.Proofs.Class.Resolution
import FluentWrap.Proofs.Class.Slices
import FluentWrap.Proofs.Class.WrittenNames
import FluentWrap.Proofs.Command.Generate
import FluentWrap.Proofs.Command.Inputs
import FluentWrap.Proofs.Config.Rules
import FluentWrap.Proofs.Config.Search
import FluentWrap.Proofs.Data.Records
import FluentWrap.Proofs.Files.Access
import FluentWrap.Proofs.Files.Paths
import FluentWrap.Proofs.Files.Walks
import FluentWrap.Proofs.Generator.Independence
import FluentWrap.Proofs.Generator.Opening
import FluentWrap.Proofs.Generator.Registrations
import FluentWrap.Proofs.Generator.Runs
import FluentWrap.Proofs.Generator.Successes
import FluentWrap.Proofs.Host.Sessions
import FluentWrap.Proofs.Host.Storing
import FluentWrap.Proofs.Interpreter.BooleanDefaults
import FluentWrap.Proofs.Interpreter.Safety
import FluentWrap.Proofs.Interpreter.Simulation
import FluentWrap.Proofs.Interpreter.Templates
import FluentWrap.Proofs.Json.Texts
import FluentWrap.Proofs.Json.Tokens
import FluentWrap.Proofs.Metadata.ClassNames
import FluentWrap.Proofs.Metadata.Conversion
import FluentWrap.Proofs.Metadata.Registries
import FluentWrap.Proofs.Naming.Derived
import FluentWrap.Proofs.Naming.Patterns
import FluentWrap.Proofs.Naming.QualifiedNames
import FluentWrap.Proofs.Plan.Declarability
import FluentWrap.Proofs.Plan.Encoding
import FluentWrap.Proofs.Plan.Ignoring
import FluentWrap.Proofs.Plan.Members
import FluentWrap.Proofs.Plan.Reduction
import FluentWrap.Proofs.Plan.Scoping
import FluentWrap.Proofs.Predicate.Algebra
import FluentWrap.Proofs.Source.Encoding
import FluentWrap.Proofs.Text.Bytes
import FluentWrap.Proofs.Text.Cutting
import FluentWrap.Proofs.Text.Nesting
import FluentWrap.Proofs.Text.Trimming
import FluentWrap.Proofs.TypeRef.BinaryNames
import FluentWrap.Proofs.TypeRef.Brackets
import FluentWrap.Proofs.TypeRef.Grammar
import FluentWrap.Proofs.TypeRef.Parsing
import FluentWrap.Proofs.TypeRef.Spelling
import FluentWrap.Samples
import FluentWrap.Source.Basic
import FluentWrap.Source.Encoding
import FluentWrap.Text.Blank
import FluentWrap.Text.CharTable
import FluentWrap.Text.Glyph
import FluentWrap.Text.Letter
import FluentWrap.Text.LowerCase
import FluentWrap.Text.Quoted
import FluentWrap.Text.Split
import FluentWrap.Text.Style
import FluentWrap.Toml.Document
import FluentWrap.Toml.Reader
import FluentWrap.Toml.Scalar
import FluentWrap.TypeRef.Basic
import FluentWrap.TypeRef.Encoding
import FluentWrap.TypeRef.Parser
