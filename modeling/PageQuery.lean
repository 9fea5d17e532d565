import PageQuery.Bytes.Base64
import PageQuery.Bytes.Charset
import PageQuery.Bytes.CodePage
import PageQuery.Bytes.Digest
import PageQuery.Bytes.Utf8
import PageQuery.CommandLine.Arguments
import PageQuery.CommandLine.Shell
import PageQuery.Environment
import PageQuery.Execution
import PageQuery.Expression.Evaluate
import PageQuery.Expression.Grammar
import PageQuery.Expression.Token
import PageQuery.Fault
import PageQuery.File.Folder
import PageQuery.File.Locator
import PageQuery.Format.Kind
import PageQuery.Format.Reader
import PageQuery.Format.Writer
import PageQuery.Html.Entity
import PageQuery.Html.Lexer
import PageQuery.Html.Reader
import PageQuery.Html.Tree
import PageQuery.Html.Writer
import PageQuery.Http.Exchange
import PageQuery.Http.Request
import PageQuery.Json.Reader
import PageQuery.Json.Writer
import PageQuery.Log
import PageQuery.Main
import PageQuery.Number.Binary64
import PageQuery.Number.Decimal
import PageQuery.Number.Numeral
import PageQuery.Number.Quantity
import PageQuery.Ordered
import PageQuery.Page
import PageQuery.Path.Address
import PageQuery.Path.Data
import PageQuery.Path.Document
import PageQuery.Proofs.Environment
import PageQuery.Proofs.Except
import PageQuery.Proofs.Execution.ArrayPipe
import PageQuery.Proofs.Execution.Confined
import PageQuery.Proofs.Execution.Pipe
import PageQuery.Proofs.Execution.Rearranged
import PageQuery.Proofs.Execution.Undiscarded
import PageQuery.Proofs.Query.Lexing
import PageQuery.Proofs.Query.Parsing
import PageQuery.Proofs.Query.Stages
import PageQuery.Proofs.Results
import PageQuery.Proofs.Run
import PageQuery.Proofs.Text
import PageQuery.Proofs.Number.Numeral
import PageQuery.Proofs.Value.Data
import PageQuery.Proofs.Value.Render
import PageQuery.Query.Lexeme
import PageQuery.Query.Parameters
import PageQuery.Query.Parser
import PageQuery.Query.Segment
import PageQuery.Regexp.Charset
import PageQuery.Regexp.Complaint
import PageQuery.Regexp.Matching
import PageQuery.Regexp.Parser
import PageQuery.Regexp.Pattern
import PageQuery.Registry
import PageQuery.Result
import PageQuery.Runner
import PageQuery.Selector.Match
import PageQuery.Selector.Plan
import PageQuery.Selector.Syntax
import PageQuery.Selector.Token
import PageQuery.Session
import PageQuery.Template
import PageQuery.Text.Basic
import PageQuery.Text.Case
import PageQuery.Text.Identifier
import PageQuery.Text.Quoted
import PageQuery.Text.Word
import PageQuery.Transform.Literal
import PageQuery.Transform.Pipeline
import PageQuery.Transform.Replacement
import PageQuery.Transform.Selection
import PageQuery.Transform.Textual
import PageQuery.Url.Authority
import PageQuery.Url.Parts
import PageQuery.Url.Percent
import PageQuery.Validation.Check
import PageQuery.Validation.Distance
import PageQuery.Validation.Report
import PageQuery.Value
import PageQuery.Value.Display
import PageQuery.Value.Render
import PageQuery.Value.Stamp
import PageQuery.Xml.Name
import PageQuery.Xml.Reader
import PageQuery.Xml.Writer
import PageQuery.Yaml.Kind
import PageQuery.Yaml.Line
import PageQuery.Yaml.Node
import PageQuery.Yaml.Reader
import PageQuery.Yaml.Scalar
import PageQuery.Yaml.Style
import PageQuery.Yaml.Token
import PageQuery.Yaml.Writer
import PageQuery.Proofs.Query.Reading
import PageQuery.Proofs.Validation.Summary
import PageQuery.Proofs.Validation.Soundness
import PageQuery.Proofs.Template
import PageQuery.Proofs.Expression
import PageQuery.Proofs.Template.Filling
import PageQuery.Proofs.Template.Weaving
import PageQuery.Proofs.Execution.Isolation
import PageQuery.Proofs.Execution.Frame
import PageQuery.Proofs.Runner
import PageQuery.Proofs.Execution.Chain
import PageQuery.Proofs.Number.Digits
import PageQuery.Proofs.Expression.Grammar
import PageQuery.Proofs.Expression.Spelling
import PageQuery.Proofs.Expression.Arithmetic
import PageQuery.Proofs.Template.Numerals
import PageQuery.Proofs.Json.RoundTrip
import PageQuery.Proofs.Format.RoundTrip
import PageQuery.Proofs.Json.Text
import PageQuery.Proofs.Value.Writable
import PageQuery.Proofs.Transform.Recovery
import PageQuery.Proofs.Value.Made
import PageQuery.Proofs.Transform.Made
import PageQuery.Proofs.Execution.Made
import PageQuery.Proofs.Query.Bodies
import PageQuery.Proofs.Query.Items
import PageQuery.Proofs.Query.Parameters
import PageQuery.Proofs.Query.Segments
import PageQuery.Proofs.Query.Chain
import PageQuery.Proofs.Bytes.Charset
import PageQuery.Proofs.Page.Decoding
import PageQuery.Proofs.Xml.Entities
import PageQuery.Proofs.Yaml.Scanner
import PageQuery.Proofs.Yaml.Nodes
import PageQuery.Proofs.Yaml.Values
import PageQuery.Proofs.Html.Elements
import PageQuery.Proofs.Format.Loading
import PageQuery.Proofs.Page.Loading
import PageQuery.Proofs.Format.Printing
import PageQuery.Proofs.Page.Printing
import PageQuery.Proofs.CommandLine.Shell
import PageQuery.Proofs.Query.Gathering
import PageQuery.Proofs.Transform.Delimiters
import PageQuery.Proofs.Query.Entries
import PageQuery.Proofs.Transform.Filters
import PageQuery.Proofs.Transform.Conditions
import PageQuery.Proofs.Transform.Itemwise
import PageQuery.Proofs.Transform.Saving
import PageQuery.Proofs.Transform.Discarding
import PageQuery.Proofs.Bytes.Utf8
import PageQuery.Proofs.Bytes.Base64
import PageQuery.Proofs.Transform.Inverses
import PageQuery.Proofs.Regexp.Matching
import PageQuery.Proofs.Transform.Replacing
import PageQuery.Proofs.Regexp.Running
import PageQuery.Proofs.Transform.Assignment
import PageQuery.Proofs.Json.Prefix
import PageQuery.Proofs.Json.Ascii
import PageQuery.Proofs.Json.Closing
import PageQuery.Proofs.Transform.Script
import PageQuery.Proofs.Transform.Extraction
import PageQuery.Proofs.Text.Wildcards
import PageQuery.Proofs.Text.Order
import PageQuery.Proofs.Path.Heritable
import PageQuery.Proofs.Path.Parts
import PageQuery.Proofs.Path.Locations
import PageQuery.Proofs.Path.Alternatives
import PageQuery.Proofs.Path.DeepSearch
import PageQuery.Proofs.Path.Wildcards
import PageQuery.Proofs.Text.Case
import PageQuery.Proofs.Ordered.Grouping
import PageQuery.Proofs.Url.Percent
import PageQuery.Proofs.Url.Parts
import PageQuery.Proofs.Url.Authority
import PageQuery.Proofs.Url.Brackets
import PageQuery.Proofs.Path.Rewriting
import PageQuery.Proofs.Html.Siblings
import PageQuery.Proofs.Path.Navigation
import PageQuery.Proofs.Html.Writing
import PageQuery.Proofs.Query.Places
import PageQuery.Proofs.Validation.Distance
import PageQuery.Proofs.Validation.Places
import PageQuery.Proofs.Validation.Errors
import PageQuery.Proofs.Validation.Warnings
import PageQuery.Proofs.Number.Doubling
import PageQuery.Proofs.Http.Attempts
import PageQuery.Proofs.Registry
import PageQuery.Proofs.Environment.Steps
import PageQuery.Proofs.Template.Names
import PageQuery.Proofs.Query.Leftmost
import PageQuery.Proofs.Query.Closed
import PageQuery.Proofs.Expression.Literals
import PageQuery.Proofs.File.Locator
