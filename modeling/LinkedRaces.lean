import LinkedRaces.Command.Arguments
import LinkedRaces.Command.Machine
import LinkedRaces.Command.Run
import LinkedRaces.Command.System
import LinkedRaces.Dictionary
import LinkedRaces.Failure
import LinkedRaces.Format.Graph
import LinkedRaces.Format.Negotiation
import LinkedRaces.Format.Results
import LinkedRaces.Graph.JsonLd
import LinkedRaces.Graph.RdfXml
import LinkedRaces.Graph.Turtle.Reader
import LinkedRaces.Graph.Turtle.Writer
import LinkedRaces.Graph.Writable
import LinkedRaces.Graph.Writer
import LinkedRaces.Grouping
import LinkedRaces.Http.Address
import LinkedRaces.Http.Message
import LinkedRaces.Json.Printer
import LinkedRaces.Json.Reader
import LinkedRaces.Json.Scaling
import LinkedRaces.Json.Value
import LinkedRaces.Lexical.Scanner
import LinkedRaces.Lexical.Token
import LinkedRaces.Lexical.Tokenizer
import LinkedRaces.Lexical.Tokens
import LinkedRaces.Main
import LinkedRaces.Number.Binary
import LinkedRaces.Number.Decimal
import LinkedRaces.Number.Integer
import LinkedRaces.Number.Shortest
import LinkedRaces.Proofs.Dictionary
import LinkedRaces.Proofs.Faults
import LinkedRaces.Proofs.Format.Negotiation
import LinkedRaces.Proofs.Graph.JsonLd
import LinkedRaces.Proofs.Graph.JsonLd.Distinctness
import LinkedRaces.Proofs.Graph.NTriples
import LinkedRaces.Proofs.Graph.RdfXml.Declarations
import LinkedRaces.Proofs.Graph.RdfXml.Elements
import LinkedRaces.Proofs.Graph.RdfXml.Reading
import LinkedRaces.Proofs.Graph.Turtle.Absolute
import LinkedRaces.Proofs.Graph.Turtle.Legibility
import LinkedRaces.Proofs.Graph.Turtle.Reader
import LinkedRaces.Proofs.Graph.Turtle.RoundTrip
import LinkedRaces.Proofs.Graph.Turtle.Unquoting
import LinkedRaces.Proofs.Graph.Turtle.Writer
import LinkedRaces.Proofs.Graph.Writable
import LinkedRaces.Proofs.Graph.Writer
import LinkedRaces.Proofs.Grouping
import LinkedRaces.Proofs.Lexical.Alike
import LinkedRaces.Proofs.Lexical.Cursor.Agreement
import LinkedRaces.Proofs.Lexical.Cursor.Basic
import LinkedRaces.Proofs.Lexical.Cursor.Spans
import LinkedRaces.Proofs.Lexical.Ending
import LinkedRaces.Proofs.Lexical.Insertion
import LinkedRaces.Proofs.Lexical.Layout
import LinkedRaces.Proofs.Lexical.Lexing
import LinkedRaces.Proofs.Lexical.LineBreaks
import LinkedRaces.Proofs.Lexical.Lines
import LinkedRaces.Proofs.Lexical.Naming
import LinkedRaces.Proofs.Lexical.Numerals
import LinkedRaces.Proofs.Lexical.Quotation
import LinkedRaces.Proofs.Lexical.Recasing
import LinkedRaces.Proofs.Lexical.Scanning
import LinkedRaces.Proofs.Lexical.Simulation
import LinkedRaces.Proofs.Lexical.Spelling
import LinkedRaces.Proofs.Lexical.Taking
import LinkedRaces.Proofs.Lexical.Unnoticed
import LinkedRaces.Proofs.Lexical.Unquoting
import LinkedRaces.Proofs.Number.Underflow
import LinkedRaces.Proofs.Query.Agreement
import LinkedRaces.Proofs.Query.Algebra
import LinkedRaces.Proofs.Query.Answers
import LinkedRaces.Proofs.Query.Contains
import LinkedRaces.Proofs.Query.Counting
import LinkedRaces.Proofs.Query.Distinct
import LinkedRaces.Proofs.Query.ErrorPlaces
import LinkedRaces.Proofs.Query.Grammar
import LinkedRaces.Proofs.Query.Graphs
import LinkedRaces.Proofs.Query.KeywordCase
import LinkedRaces.Proofs.Query.Lexing
import LinkedRaces.Proofs.Query.Lookup
import LinkedRaces.Proofs.Query.OptionalWhere
import LinkedRaces.Proofs.Query.Order
import LinkedRaces.Proofs.Query.Pages
import LinkedRaces.Proofs.Query.Parser.Conditions
import LinkedRaces.Proofs.Query.Parser.Constants
import LinkedRaces.Proofs.Query.Parser.Filters
import LinkedRaces.Proofs.Query.Parser.Forms
import LinkedRaces.Proofs.Query.Parser.GroupSoundness
import LinkedRaces.Proofs.Query.Parser.GroupUnquoting
import LinkedRaces.Proofs.Query.Parser.Groups
import LinkedRaces.Proofs.Query.Parser.Neighbours
import LinkedRaces.Proofs.Query.Parser.Prompt
import LinkedRaces.Proofs.Query.Parser.PromptFilters
import LinkedRaces.Proofs.Query.Parser.PromptForms
import LinkedRaces.Proofs.Query.Parser.PromptGroups
import LinkedRaces.Proofs.Query.Parser.QuerySoundness
import LinkedRaces.Proofs.Query.Parser.QueryUnquoting
import LinkedRaces.Proofs.Query.Parser.Template
import LinkedRaces.Proofs.Query.Parser.Terms
import LinkedRaces.Proofs.Query.Pattern
import LinkedRaces.Proofs.Query.Renaming
import LinkedRaces.Proofs.Query.Rendering
import LinkedRaces.Proofs.Query.Reordering
import LinkedRaces.Proofs.Query.RoundTrip
import LinkedRaces.Proofs.Query.Spacing
import LinkedRaces.Proofs.Query.Template
import LinkedRaces.Proofs.Query.Unbound
import LinkedRaces.Proofs.Race.Attributes
import LinkedRaces.Proofs.Race.Duration
import LinkedRaces.Proofs.Race.Mapping
import LinkedRaces.Proofs.Race.Separation
import LinkedRaces.Proofs.Race.Slug
import LinkedRaces.Proofs.Rdf.Compaction
import LinkedRaces.Proofs.Rdf.Directory
import LinkedRaces.Proofs.Rdf.Host
import LinkedRaces.Proofs.Rdf.Literal
import LinkedRaces.Proofs.Rdf.Namespaces
import LinkedRaces.Proofs.Rdf.Relative
import LinkedRaces.Proofs.Rdf.Resolution
import LinkedRaces.Proofs.Results.Csv
import LinkedRaces.Proofs.Results.Delimited
import LinkedRaces.Proofs.Results.Documents
import LinkedRaces.Proofs.Results.Tsv
import LinkedRaces.Proofs.Results.Writer
import LinkedRaces.Proofs.Service.Answer
import LinkedRaces.Proofs.Service.Description
import LinkedRaces.Proofs.Service.Dump
import LinkedRaces.Proofs.Settings
import LinkedRaces.Proofs.Shorthand
import LinkedRaces.Proofs.Text.Blank
import LinkedRaces.Proofs.Text.Bytes
import LinkedRaces.Proofs.Text.IgnoringCase
import LinkedRaces.Proofs.Text.Joined
import LinkedRaces.Proofs.Text.Lowercase
import LinkedRaces.Proofs.Text.Sigma
import LinkedRaces.Proofs.Text.Trimming
import LinkedRaces.Proofs.Xml.Reading
import LinkedRaces.Proofs.Xml.Values
import LinkedRaces.Query.Basic
import LinkedRaces.Query.Error
import LinkedRaces.Query.Execution
import LinkedRaces.Query.Expression
import LinkedRaces.Query.Filter
import LinkedRaces.Query.Matching
import LinkedRaces.Query.Parser.Filters
import LinkedRaces.Query.Parser.Forms
import LinkedRaces.Query.Parser.Groups
import LinkedRaces.Query.Parser.Terms
import LinkedRaces.Query.Solutions
import LinkedRaces.Query.TextPattern
import LinkedRaces.Query.Values
import LinkedRaces.Race.Duration
import LinkedRaces.Race.Entities
import LinkedRaces.Race.Mapping
import LinkedRaces.Race.Slug
import LinkedRaces.Race.SnapshotReader
import LinkedRaces.Rdf.Iri
import LinkedRaces.Rdf.Literal
import LinkedRaces.Rdf.Namespaces
import LinkedRaces.Rdf.Store
import LinkedRaces.Rdf.Term
import LinkedRaces.Rdf.Vocabulary
import LinkedRaces.Reading
import LinkedRaces.Regex.Basic
import LinkedRaces.Regex.CharSet
import LinkedRaces.Regex.Matching
import LinkedRaces.Regex.Reader
import LinkedRaces.Regex.Reader.Blank
import LinkedRaces.Regex.Reader.Bracket
import LinkedRaces.Regex.Reader.Escape
import LinkedRaces.Regex.Size
import LinkedRaces.Regex.Unicode.Age
import LinkedRaces.Regex.Unicode.BinaryProperty
import LinkedRaces.Regex.Unicode.Case
import LinkedRaces.Regex.Unicode.Category
import LinkedRaces.Regex.Unicode.Property
import LinkedRaces.Regex.Unicode.Script
import LinkedRaces.Regex.Unicode.ScriptExtension
import LinkedRaces.Regex.Unicode.Segmentation
import LinkedRaces.Results.Delimited
import LinkedRaces.Results.Writer
import LinkedRaces.Service.Basic
import LinkedRaces.Service.Http
import LinkedRaces.Settings.Basic
import LinkedRaces.Settings.Printer
import LinkedRaces.Settings.Reader
import LinkedRaces.Text.Alphabetic
import LinkedRaces.Text.Basic
import LinkedRaces.Text.Cased
import LinkedRaces.Text.Lowercase
import LinkedRaces.Text.Range
import LinkedRaces.Text.Utf8
import LinkedRaces.Toml.Printer
import LinkedRaces.Toml.Reader
import LinkedRaces.Toml.Scalar
import LinkedRaces.Toml.Table
import LinkedRaces.Xml.Element
