import GraphRepo.Bolt.Address
import GraphRepo.Bolt.Conversion
import GraphRepo.Bolt.Description
import GraphRepo.Bolt.Host
import GraphRepo.Bolt.Server
import GraphRepo.Bolt.Uri
import GraphRepo.Bolt.Value
import GraphRepo.Bolt.WebHost
import GraphRepo.Command.Run
import GraphRepo.Command.Terminal
import GraphRepo.Command.Usage
import GraphRepo.Cypher.Parameter
import GraphRepo.Cypher.Token
import GraphRepo.Database.BaseRepository
import GraphRepo.Database.Error
import GraphRepo.Database.Invocation
import GraphRepo.Database.Row
import GraphRepo.Database.Script
import GraphRepo.Database.Session
import GraphRepo.Database.Statement
import GraphRepo.Datum
import GraphRepo.Decimal.Double
import GraphRepo.Decimal.Layout
import GraphRepo.Decimal.Shortest
import GraphRepo.FilePath
import GraphRepo.FileSystem
import GraphRepo.Json
import GraphRepo.Json.Reader
import GraphRepo.Json.Reason
import GraphRepo.Json.Writer
import GraphRepo.Main
import GraphRepo.Proofs.Bolt.FailedStatement
import GraphRepo.Proofs.Bolt.NormalForm
import GraphRepo.Proofs.Bolt.ParameterOrder
import GraphRepo.Proofs.Bolt.RoundTrip
import GraphRepo.Proofs.Bolt.SavedNode
import GraphRepo.Proofs.Command.Checked
import GraphRepo.Proofs.Command.Generated
import GraphRepo.Proofs.Command.Reports
import GraphRepo.Proofs.Command.Running
import GraphRepo.Proofs.Confined
import GraphRepo.Proofs.Cypher.Closed
import GraphRepo.Proofs.Cypher.FirstToken
import GraphRepo.Proofs.Cypher.Grammar
import GraphRepo.Proofs.Cypher.Scan
import GraphRepo.Proofs.Cypher.Unclosed
import GraphRepo.Proofs.Database.Building
import GraphRepo.Proofs.Database.Container
import GraphRepo.Proofs.Database.NodeStore
import GraphRepo.Proofs.Database.NodeText
import GraphRepo.Proofs.Database.QueryAnswer
import GraphRepo.Proofs.Database.QueryCall
import GraphRepo.Proofs.Database.QuotedParameter
import GraphRepo.Proofs.Database.Running
import GraphRepo.Proofs.Database.SaveCall
import GraphRepo.Proofs.Database.Sending
import GraphRepo.Proofs.Database.SingleRow
import GraphRepo.Proofs.Database.Watched
import GraphRepo.Proofs.FilePath
import GraphRepo.Proofs.FileSystem
import GraphRepo.Proofs.Json
import GraphRepo.Proofs.Outcome
import GraphRepo.Proofs.Repository.Aborts
import GraphRepo.Proofs.Repository.Accepted
import GraphRepo.Proofs.Repository.ArgumentLists
import GraphRepo.Proofs.Repository.BindingKey
import GraphRepo.Proofs.Repository.Bindings
import GraphRepo.Proofs.Repository.Classification
import GraphRepo.Proofs.Repository.Cleaned
import GraphRepo.Proofs.Repository.Containment
import GraphRepo.Proofs.Repository.Defects
import GraphRepo.Proofs.Repository.Diagnosed
import GraphRepo.Proofs.Repository.DirectoryFiles
import GraphRepo.Proofs.Repository.DirectoryTurns
import GraphRepo.Proofs.Repository.Discovery
import GraphRepo.Proofs.Repository.Emitted
import GraphRepo.Proofs.Repository.ErrorForm
import GraphRepo.Proofs.Repository.Expansion
import GraphRepo.Proofs.Repository.ExpansionKind
import GraphRepo.Proofs.Repository.FactoryFunction
import GraphRepo.Proofs.Repository.FactoryName
import GraphRepo.Proofs.Repository.FileMode
import GraphRepo.Proofs.Repository.FileModule
import GraphRepo.Proofs.Repository.FileName
import GraphRepo.Proofs.Repository.HelperAttributes
import GraphRepo.Proofs.Repository.Hygiene
import GraphRepo.Proofs.Repository.Innermost
import GraphRepo.Proofs.Repository.MemoryFiles
import GraphRepo.Proofs.Repository.OkType
import GraphRepo.Proofs.Repository.ParameterKey
import GraphRepo.Proofs.Repository.Parentheses
import GraphRepo.Proofs.Repository.Passes
import GraphRepo.Proofs.Repository.Plan
import GraphRepo.Proofs.Repository.PrintedLiterals
import GraphRepo.Proofs.Repository.QueryScan
import GraphRepo.Proofs.Repository.Rendered
import GraphRepo.Proofs.Repository.SpelledCode
import GraphRepo.Proofs.Repository.SpelledUnit
import GraphRepo.Proofs.Repository.Spelling
import GraphRepo.Proofs.Repository.StandardNames
import GraphRepo.Proofs.Repository.Writing
import GraphRepo.Proofs.Settings.Numbers
import GraphRepo.Proofs.Settings.PlainText
import GraphRepo.Proofs.Settings.TextVariable
import GraphRepo.Proofs.Source.Answers
import GraphRepo.Proofs.Source.FunctionName
import GraphRepo.Proofs.Source.Leaves
import GraphRepo.Proofs.Source.Literals
import GraphRepo.Proofs.Source.Numbers
import GraphRepo.Proofs.Source.PrintedBack
import GraphRepo.Proofs.Source.QuotedLiterals
import GraphRepo.Proofs.Source.Reads
import GraphRepo.Proofs.Source.Reads.Expressions
import GraphRepo.Proofs.Source.Reads.Items
import GraphRepo.Proofs.Source.Reads.Patterns
import GraphRepo.Proofs.Source.Reads.Statements
import GraphRepo.Proofs.Source.Reads.Types
import GraphRepo.Proofs.Source.Spelled
import GraphRepo.Proofs.Source.SpelledSyntax
import GraphRepo.Proofs.Source.StringLiteral
import GraphRepo.Proofs.Source.Tokenized
import GraphRepo.Proofs.Table
import GraphRepo.Proofs.Text.Ranges
import GraphRepo.Repository.Arguments
import GraphRepo.Repository.Behavior
import GraphRepo.Repository.CleanTrait
import GraphRepo.Repository.Code
import GraphRepo.Repository.Declaration
import GraphRepo.Repository.Diagnostic
import GraphRepo.Repository.Discovery
import GraphRepo.Repository.Extraction
import GraphRepo.Repository.GeneratedUnit
import GraphRepo.Repository.Generator
import GraphRepo.Repository.Marker
import GraphRepo.Repository.MethodBody
import GraphRepo.Repository.Pass
import GraphRepo.Repository.ResolvedType
import GraphRepo.Repository.ReturnShape
import GraphRepo.Repository.Sink
import GraphRepo.Settings.Configuration
import GraphRepo.Settings.Literal
import GraphRepo.Settings.Value
import GraphRepo.Shape
import GraphRepo.Source.Attribute
import GraphRepo.Source.FieldNumber
import GraphRepo.Source.Grammar
import GraphRepo.Source.Grammar.Attribute
import GraphRepo.Source.Grammar.Expression
import GraphRepo.Source.Grammar.Item
import GraphRepo.Source.Grammar.Pattern
import GraphRepo.Source.Grammar.Type
import GraphRepo.Source.Item
import GraphRepo.Source.Lexeme
import GraphRepo.Source.Lexer
import GraphRepo.Source.Parser
import GraphRepo.Source.Reading
import GraphRepo.Source.StringLiteral
import GraphRepo.Source.Token
import GraphRepo.Source.Type
import GraphRepo.Table
import GraphRepo.Text.Alphabetic
import GraphRepo.Text.Blank
import GraphRepo.Text.Cut
import GraphRepo.Text.Escape
import GraphRepo.Text.IdentifierChar
import GraphRepo.Text.LetterCase
import GraphRepo.Text.Numeric
import GraphRepo.Text.Printable
import GraphRepo.Text.Punycode
import GraphRepo.Text.Ranges
import GraphRepo.Text.Reader
import GraphRepo.Text.Words
import GraphRepo.Toml.Document
import GraphRepo.Toml.Node
import GraphRepo.Toml.Scalar
