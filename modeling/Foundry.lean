import Foundry.Arguments
import Foundry.Config
import Foundry.Decimal.Binary64
import Foundry.Decimal.Shortest
import Foundry.Declaration
import Foundry.Diagnostic
import Foundry.Discovery.Finder
import Foundry.Discovery.Pattern
import Foundry.Discovery.Sources
import Foundry.Extraction
import Foundry.Factory.Generated
import Foundry.Factory.Plan
import Foundry.Factory.Render
import Foundry.Fault
import Foundry.FileTree
import Foundry.Filer
import Foundry.Generation
import Foundry.Live.Construction
import Foundry.Live.DataClass
import Foundry.Live.Definition
import Foundry.Live.Description
import Foundry.Live.Discovery
import Foundry.Live.Evaluation
import Foundry.Live.Generation
import Foundry.Live.Heap
import Foundry.Live.Library
import Foundry.Live.Linear
import Foundry.Live.Machine
import Foundry.Marker
import Foundry.Name.Dotted
import Foundry.Name.Qualified
import Foundry.Name.Snake
import Foundry.Ordered
import Foundry.Pass
import Foundry.Path
import Foundry.Proofs.Extraction
import Foundry.Proofs.Factory.Execution
import Foundry.Proofs.Factory.Hygiene
import Foundry.Proofs.Factory.ImportTable
import Foundry.Proofs.Factory.Lines
import Foundry.Proofs.Factory.Meaning
import Foundry.Proofs.Factory.Program
import Foundry.Proofs.Factory.Reading
import Foundry.Proofs.Factory.Resolution
import Foundry.Proofs.Files.Growth
import Foundry.Proofs.Files.Writing
import Foundry.Proofs.Live.Abstractness
import Foundry.Proofs.Live.Ancestry
import Foundry.Proofs.Live.ClassBodies
import Foundry.Proofs.Live.Classes
import Foundry.Proofs.Live.Constructors
import Foundry.Proofs.Live.DataStatements
import Foundry.Proofs.Live.Decorated
import Foundry.Proofs.Live.Definitions
import Foundry.Proofs.Live.Discovery
import Foundry.Proofs.Live.Execution
import Foundry.Proofs.Live.FieldConstructors
import Foundry.Proofs.Live.FieldTables
import Foundry.Proofs.Live.Fields
import Foundry.Proofs.Live.Modules
import Foundry.Proofs.Live.Order
import Foundry.Proofs.Live.Parameters
import Foundry.Proofs.Live.Programs
import Foundry.Proofs.Live.Skeletons
import Foundry.Proofs.Live.Statements
import Foundry.Proofs.Live.WellMade
import Foundry.Proofs.Ordered
import Foundry.Proofs.Pass.Accounting
import Foundry.Proofs.Pass.Alongside
import Foundry.Proofs.Pass.Clearing
import Foundry.Proofs.Pass.Emission
import Foundry.Proofs.Pass.FailFast
import Foundry.Proofs.Pass.Footprint
import Foundry.Proofs.Pass.Isolation
import Foundry.Proofs.Pass.Lossless
import Foundry.Proofs.Pass.Rounds
import Foundry.Proofs.Pass.Steps
import Foundry.Proofs.Pass.Tame
import Foundry.Proofs.Pass.Verdicts
import Foundry.Proofs.Pass.Visits
import Foundry.Proofs.Provider.Answers
import Foundry.Proofs.Query.After
import Foundry.Proofs.Query.Alike
import Foundry.Proofs.Query.Within
import Foundry.Proofs.Registry.Grouping
import Foundry.Proofs.Registry.History
import Foundry.Proofs.Settings
import Foundry.Proofs.Source.Abstracts
import Foundry.Proofs.Source.Coverage
import Foundry.Proofs.Source.Discovery
import Foundry.Proofs.Source.Fields
import Foundry.Proofs.Source.Generating
import Foundry.Proofs.Source.Hierarchy
import Foundry.Proofs.Source.History
import Foundry.Proofs.Source.Imports
import Foundry.Proofs.Source.Kinds
import Foundry.Proofs.Source.Links
import Foundry.Proofs.Source.References
import Foundry.Proofs.Source.Symbols
import Foundry.Proofs.Source.Walks
import Foundry.Proofs.Text.Dotted
import Foundry.Proofs.Text.Quoting
import Foundry.Proofs.Text.Splitting
import Foundry.Proofs.Text.Words
import Foundry.Proofs.Validation.Ancestry
import Foundry.Proofs.Validation.Closure
import Foundry.Proofs.Validation.DepthLimit
import Foundry.Proofs.Validation.Rules
import Foundry.Proofs.Validation.Walk
import Foundry.Provider
import Foundry.Provider.Failing
import Foundry.Provider.Simple
import Foundry.Registry
import Foundry.Rejection
import Foundry.Settings
import Foundry.Source.Builtins
import Foundry.Source.Description
import Foundry.Source.Grammar
import Foundry.Source.Index
import Foundry.Source.Lexer
import Foundry.Source.Literal
import Foundry.Source.Loading
import Foundry.Source.Parsing
import Foundry.Source.Printer
import Foundry.Source.Reading
import Foundry.Source.Syntax
import Foundry.Source.Token
import Foundry.Source.Tree
import Foundry.Text.Blank
import Foundry.Text.Case
import Foundry.Text.CharacterNames
import Foundry.Text.CharacterSet
import Foundry.Text.Encoding
import Foundry.Text.Identifier
import Foundry.Text.Printable
import Foundry.Text.Quoted
import Foundry.Text.Ranges
import Foundry.Text.Segments
import Foundry.Trace
import Foundry.Validation
import Foundry.Value
import Foundry.World
import Foundry.Proofs.Source.Keeping
import Foundry.Filer.Staged
import Foundry.Proofs.Files.Absence
import Foundry.Proofs.Files.AllOrNothing
import Foundry.Proofs.Pass.Apart
import Foundry.Proofs.Source.Aside
import Foundry.Proofs.Source.Relative
import Foundry.Proofs.Source.Roots
import Foundry.Proofs.Factory.Naming
import Foundry.Proofs.Text.Boundaries
import Foundry.Proofs.Qualified
import Foundry.Proofs.Factory.Bindings
import Foundry.Proofs.Source.Generated
import Foundry.Proofs.Pass.ReadBack
