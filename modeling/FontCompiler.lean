import FontCompiler.Numeric.FloatFormat
import FontCompiler.Numeric.Decimal
import FontCompiler.Text.Hex
import FontCompiler.Text.Lowercase
import FontCompiler.Text.Invisible
import FontCompiler.Text.Utf16
import FontCompiler.Text.Quoted
import FontCompiler.Ordered
import FontCompiler.Json.Value
import FontCompiler.Json.Syntax
import FontCompiler.Json.NumberText
import FontCompiler.Json.Draft
import FontCompiler.Log
import FontCompiler.Graph.Node
import FontCompiler.Code
import FontCompiler.Factory
import FontCompiler.Encoder.GlyphRange
import FontCompiler.Encoder.Source
import FontCompiler.Font.Service
import FontCompiler.Font.Table
import FontCompiler.Subset
import FontCompiler.Files.Path
import FontCompiler.Files.System
import FontCompiler.Files.Store
import FontCompiler.Json.Location
import FontCompiler.Json.Reading
import FontCompiler.Manifest.Codepoint
import FontCompiler.Manifest.Fault
import FontCompiler.Manifest.Decoding
import FontCompiler.Manifest.Document
import FontCompiler.Manifest.Lowering
import FontCompiler.Manifest.Font
import FontCompiler.Text.Blank
import FontCompiler.Text.Search
import FontCompiler.Query.Outputs
import FontCompiler.Query.Value
import FontCompiler.Query.Reading
import FontCompiler.Query.Order
import FontCompiler.Query.Interrupt
import FontCompiler.Query.Arithmetic
import FontCompiler.Query.Access
import FontCompiler.Query.Term
import FontCompiler.Query.Token
import FontCompiler.Query.Parser
import FontCompiler.Query.Environment
import FontCompiler.Query.Builtin
import FontCompiler.Query.Prelude
import FontCompiler.Query.Scope
import FontCompiler.Query.Evaluation
import FontCompiler.Query.Run
import FontCompiler.Files.Pattern
import FontCompiler.Text.Category
import FontCompiler.Text.Letters
import FontCompiler.Text.Folding
import FontCompiler.Text.Script
import FontCompiler.Regex.Pattern
import FontCompiler.Regex.Fault
import FontCompiler.Regex.Reader
import FontCompiler.Regex.Escape
import FontCompiler.Regex.Class
import FontCompiler.Regex.Reading
import FontCompiler.Regex.Property
import FontCompiler.Regex.CharSet
import FontCompiler.Regex.Expression
import FontCompiler.Regex.Resolution
import FontCompiler.Log.Directives
import FontCompiler.Command.Invocation
import FontCompiler.Command.Usage
import FontCompiler.Command.Dump
import FontCompiler.Command.Failure
import FontCompiler.Command.Session
import FontCompiler.Command.Sources
import FontCompiler.Command.Run
import FontCompiler.Command.Program
import FontCompiler.Main
import FontCompiler.Proofs.Factory.Declarations
import FontCompiler.Proofs.Factory.PostOrder
import FontCompiler.Proofs.Factory.Syntax
import FontCompiler.Proofs.Factory.Execution
import FontCompiler.Proofs.Factory.Rebuild
import FontCompiler.Proofs.Encoder.Reading
import FontCompiler.Proofs.Encoder.TableNames
import FontCompiler.Proofs.Encoder.Agreement
import FontCompiler.Proofs.Subset.Requests
import FontCompiler.Proofs.Manifest.Fonts
import FontCompiler.Proofs.Subset.Selection
import FontCompiler.Proofs.Text.Utf16
import FontCompiler.Proofs.Text.Lowercase
import FontCompiler.Proofs.Subset.OwnBytes
import FontCompiler.Proofs.Manifest.Codepoints
import FontCompiler.Proofs.Subset.Surrogates
import FontCompiler.Proofs.Manifest.Raising
import FontCompiler.Proofs.Json.Denotation
import FontCompiler.Proofs.Json.NumberText
import FontCompiler.Proofs.Json.Integers
import FontCompiler.Proofs.Manifest.Routes
import FontCompiler.Proofs.Files.Path
import FontCompiler.Proofs.Files.Store
import FontCompiler.Proofs.Files.System
import FontCompiler.Proofs.Command.Session
import FontCompiler.Proofs.Command.Loading
import FontCompiler.Proofs.Command.Compiling
import FontCompiler.Proofs.Command.Generation
import FontCompiler.Proofs.Command.Failures
import FontCompiler.Proofs.Command.Streams
import FontCompiler.Proofs.Command.Members
import FontCompiler.Proofs.Command.Confinement
import FontCompiler.Proofs.Command.Distribution
import FontCompiler.Proofs.Manifest.Grammar
import FontCompiler.Proofs.Manifest.CharacterMaps
import FontCompiler.Proofs.Query.Documents
import FontCompiler.Proofs.Factory.Refusals
import FontCompiler.Proofs.Subset.Faults
import FontCompiler.Proofs.Json.Keys
import FontCompiler.Proofs.Manifest.Breaches
import FontCompiler.Proofs.Manifest.Mirroring
import FontCompiler.Proofs.Manifest.Pointers
import FontCompiler.Proofs.Manifest.Culprits
import FontCompiler.Proofs.Encoder.Concatenation
import FontCompiler.Proofs.Factory.Repetitions
import FontCompiler.Proofs.Factory.LocalNames
import FontCompiler.Proofs.Factory.Literals
import FontCompiler.Proofs.Factory.Slots
import FontCompiler.Proofs.Numeric.Rounding
import FontCompiler.Proofs.Manifest.Literals
import FontCompiler.Proofs.Manifest.Places
import FontCompiler.Proofs.Command.Numbers
import FontCompiler.Proofs.Manifest.GlyphBytes
import FontCompiler.Proofs.Factory.Bindings
import FontCompiler.Proofs.Text.Numerals
import FontCompiler.Proofs.Manifest.Spellings
import FontCompiler.Proofs.Numeric.Equality
import FontCompiler.Proofs.Graph.Equivalence
import FontCompiler.Proofs.Graph.Rearrangement
