import RecordSearch.Calendar.Date
import RecordSearch.Calendar.Format
import RecordSearch.Calendar.Instant
import RecordSearch.Coercion
import RecordSearch.Compilation
import RecordSearch.Console.Arguments
import RecordSearch.Console.CommandLine
import RecordSearch.Console.Help
import RecordSearch.Console.Ink
import RecordSearch.Console.Listing
import RecordSearch.Console.Report
import RecordSearch.Console.Session
import RecordSearch.Console.ShapeSheet
import RecordSearch.Console.Table
import RecordSearch.Console.Task
import RecordSearch.Console.Walkthrough
import RecordSearch.Contacts.Contact
import RecordSearch.Contacts.Document
import RecordSearch.Contacts.Sample
import RecordSearch.Criterion
import RecordSearch.Declaration.Item
import RecordSearch.Declaration.Naming
import RecordSearch.Declaration.Shape
import RecordSearch.Declaration.Tags
import RecordSearch.Declaration.TypeText
import RecordSearch.Degradation
import RecordSearch.DomainFilters
import RecordSearch.Field
import RecordSearch.FileError
import RecordSearch.FilePath
import RecordSearch.Json
import RecordSearch.Json.Criterion
import RecordSearch.Json.Decode
import RecordSearch.Json.Number
import RecordSearch.Json.Page
import RecordSearch.Json.Reader
import RecordSearch.Json.Request
import RecordSearch.Json.Structure
import RecordSearch.Json.Writer
import RecordSearch.Log
import RecordSearch.Number
import RecordSearch.Number.Decimal
import RecordSearch.Number.Double
import RecordSearch.Number.Double.Reader
import RecordSearch.Number.Double.Shortest
import RecordSearch.Number.Integer
import RecordSearch.Number.Power
import RecordSearch.Operator
import RecordSearch.Paging
import RecordSearch.Plan
import RecordSearch.Predicate
import RecordSearch.Registry
import RecordSearch.Request
import RecordSearch.Search
import RecordSearch.Settings
import RecordSearch.SortKey
import RecordSearch.TagSet
import RecordSearch.Text.Ascii
import RecordSearch.Text.Blank
import RecordSearch.Text.Casing
import RecordSearch.Text.Casing.Table
import RecordSearch.Text.CodePointSet
import RecordSearch.Text.Columns
import RecordSearch.Text.Columns.Table
import RecordSearch.Text.Digits
import RecordSearch.Text.Pieces
import RecordSearch.Text.Quoted
import RecordSearch.Text.Quoted.Table
import RecordSearch.Toml
import RecordSearch.Toml.Quoted
import RecordSearch.Toml.Reader
import RecordSearch.Toml.Scalar
import RecordSearch.Toml.Tree
import RecordSearch.Users.Document
import RecordSearch.Users.Sample
import RecordSearch.Users.User
import RecordSearch.Value
import RecordSearch.Main
import RecordSearch.Proofs.Compilation
import RecordSearch.Proofs.Pages
import RecordSearch.Proofs.Secrecy
import RecordSearch.Proofs.Typing
import RecordSearch.Proofs.Operators
import RecordSearch.Proofs.Leniency
import RecordSearch.Proofs.Calendar
import RecordSearch.Proofs.Timestamps
import RecordSearch.Proofs.Members
import RecordSearch.Proofs.RequestFormat
import RecordSearch.Proofs.TypedFilters
import RecordSearch.Proofs.Sorting
import RecordSearch.Proofs.Reordering
import RecordSearch.Proofs.Spelling
import RecordSearch.Proofs.Respelling
import RecordSearch.Proofs.Bytes
import RecordSearch.Proofs.Registry
import RecordSearch.Proofs.Tags
import RecordSearch.Proofs.DeclaredFields
import RecordSearch.Proofs.Lexemes
import RecordSearch.Proofs.Reading
import RecordSearch.Proofs.Layout
import RecordSearch.Proofs.Exchange
import RecordSearch.Proofs.NormalForm
import RecordSearch.Proofs.Writing
import RecordSearch.Proofs.StoredTimes
import RecordSearch.Proofs.Storage
import RecordSearch.Proofs.Casing
import RecordSearch.Proofs.Verbatim
import RecordSearch.Proofs.Criteria
import RecordSearch.Proofs.FreeText
import RecordSearch.Proofs.AsciiTexts
import RecordSearch.Proofs.Membership
import RecordSearch.Proofs.Slices
import RecordSearch.Proofs.PageWords
import RecordSearch.Proofs.DayCount
import RecordSearch.Proofs.WrittenBounds
import RecordSearch.Proofs.WrittenTimes
import RecordSearch.Proofs.CriterionText
import RecordSearch.Proofs.OwnTexts
import RecordSearch.Proofs.Notes
import RecordSearch.Proofs.Blocks
import RecordSearch.Proofs.Mirror
import RecordSearch.Proofs.DeclaredSort
import RecordSearch.Proofs.Tasks
import RecordSearch.Proofs.Presentation
import RecordSearch.Proofs.CompactLines
import RecordSearch.Proofs.IntegerTexts
import RecordSearch.Proofs.ExactNumbers
import RecordSearch.Proofs.Segments
import RecordSearch.Proofs.FieldNames
