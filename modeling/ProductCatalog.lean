import ProductCatalog.Catalog.Lifecycle
import ProductCatalog.Catalog.SeedFile
import ProductCatalog.Catalog.Service
import ProductCatalog.Catalog.Signal
import ProductCatalog.CommandLine.Arguments
import ProductCatalog.CommandLine.Level
import ProductCatalog.CommandLine.Run
import ProductCatalog.CommandLine.Setting
import ProductCatalog.CommandLine.Word
import ProductCatalog.Config.DataDirectory
import ProductCatalog.Config.Environment
import ProductCatalog.Config.Layer
import ProductCatalog.Config.Settings
import ProductCatalog.Config.VariableFile
import ProductCatalog.Decimal.Binary
import ProductCatalog.Decimal.Reading
import ProductCatalog.Decimal.Shortest
import ProductCatalog.Decimal.Written
import ProductCatalog.Files.DatabaseFile
import ProductCatalog.Files.Path
import ProductCatalog.Files.Tree
import ProductCatalog.Http.Address
import ProductCatalog.Http.Coding
import ProductCatalog.Http.Description
import ProductCatalog.Http.DocumentationPage
import ProductCatalog.Http.Form
import ProductCatalog.Http.Origin
import ProductCatalog.Http.Request
import ProductCatalog.Http.Response
import ProductCatalog.Http.Router
import ProductCatalog.Http.Target
import ProductCatalog.Json.Decode
import ProductCatalog.Json.Fault
import ProductCatalog.Json.Node
import ProductCatalog.Json.Token
import ProductCatalog.Json.Value
import ProductCatalog.Product.Field
import ProductCatalog.Product.NewProduct
import ProductCatalog.Product.Row
import ProductCatalog.Query.Comparison
import ProductCatalog.Query.Filter
import ProductCatalog.Query.Parameters
import ProductCatalog.Query.Policy
import ProductCatalog.Query.Statement
import ProductCatalog.Store.Change
import ProductCatalog.Store.Condition
import ProductCatalog.Store.Connection
import ProductCatalog.Store.Fault
import ProductCatalog.Store.Migration
import ProductCatalog.Store.Order
import ProductCatalog.Store.Search
import ProductCatalog.Store.Snapshot
import ProductCatalog.Store.Table
import ProductCatalog.Store.Transaction
import ProductCatalog.Text.Blank
import ProductCatalog.Text.CaseTable
import ProductCatalog.Text.HiddenTable
import ProductCatalog.Text.Like
import ProductCatalog.Text.Lowercase
import ProductCatalog.Text.Quoted
import ProductCatalog.Text.Utf8
import ProductCatalog.Time.Date
import ProductCatalog.Time.Instant
import ProductCatalog.Time.Reading
import ProductCatalog.Main
import ProductCatalog.Proofs.Catalog.Limits
import ProductCatalog.Proofs.Catalog.Listing
import ProductCatalog.Proofs.Catalog.Loaded
import ProductCatalog.Proofs.Catalog.Loading
import ProductCatalog.Proofs.Catalog.SeedFile
import ProductCatalog.Proofs.Catalog.SeedReading
import ProductCatalog.Proofs.CommandLine.Flags
import ProductCatalog.Proofs.CommandLine.Precedence
import ProductCatalog.Proofs.CommandLine.Seeding
import ProductCatalog.Proofs.Config.Precedence
import ProductCatalog.Proofs.Decimal.Defined
import ProductCatalog.Proofs.Decimal.Numeral
import ProductCatalog.Proofs.Decimal.Rounding
import ProductCatalog.Proofs.Files.Products
import ProductCatalog.Proofs.Files.Path
import ProductCatalog.Proofs.Files.Expansion
import ProductCatalog.Proofs.Http.Status
import ProductCatalog.Proofs.Outcome
import ProductCatalog.Proofs.Product.NewProduct
import ProductCatalog.Proofs.Query.Clauses
import ProductCatalog.Proofs.Query.Filters
import ProductCatalog.Proofs.Query.Reading
import ProductCatalog.Proofs.Query.Rendering
import ProductCatalog.Proofs.Query.Sorting
import ProductCatalog.Proofs.Query.Tokens
import ProductCatalog.Proofs.Query.Words
import ProductCatalog.Proofs.Query.WrittenNumber
import ProductCatalog.Proofs.Store.Age
import ProductCatalog.Proofs.Store.Engine
import ProductCatalog.Proofs.Store.History
import ProductCatalog.Proofs.Store.Insertion
import ProductCatalog.Proofs.Store.KeptRows
import ProductCatalog.Proofs.Store.Matching
import ProductCatalog.Proofs.Store.Migration
import ProductCatalog.Proofs.Store.Order
import ProductCatalog.Proofs.Store.Ordered
import ProductCatalog.Proofs.Store.Paging
import ProductCatalog.Proofs.Store.PieceSearch
import ProductCatalog.Proofs.Store.Selection
import ProductCatalog.Proofs.Store.Step
import ProductCatalog.Proofs.Store.Transaction
import ProductCatalog.Proofs.Store.Usable
import ProductCatalog.Proofs.Text.Like
import ProductCatalog.Proofs.Text.Lowercase
import ProductCatalog.Proofs.Text.Piece
import ProductCatalog.Proofs.Text.Size
import ProductCatalog.Proofs.Text.Utf8
import ProductCatalog.Proofs.Text.Trim
import ProductCatalog.Proofs.Http.Form
import ProductCatalog.Proofs.Http.Transport
import ProductCatalog.Proofs.Json.Numeral
import ProductCatalog.Proofs.Json.WrittenNumber
import ProductCatalog.Proofs.Json.WrittenText
import ProductCatalog.Proofs.Json.RoundTrip
import ProductCatalog.Proofs.Time.Date
import ProductCatalog.Proofs.Product.Record
import ProductCatalog.Proofs.Catalog.Reseeding
import ProductCatalog.Proofs.Http.StoreFailure
import ProductCatalog.Proofs.Store.Needle
import ProductCatalog.Proofs.Catalog.Rearrangement
import ProductCatalog.Proofs.Query.Recovery
import ProductCatalog.Proofs.Query.SortText
import ProductCatalog.Proofs.Query.Projection
import ProductCatalog.Proofs.Query.Canonical
import ProductCatalog.Proofs.Query.PageNumber
import ProductCatalog.Proofs.Time.Calendar
import ProductCatalog.Proofs.Time.Stamp
import ProductCatalog.Proofs.Time.Reading
import ProductCatalog.Proofs.Time.Denotation
import ProductCatalog.Proofs.Product.CreationTime
import ProductCatalog.Proofs.Config.GivenPaths
import ProductCatalog.Proofs.Http.Address
import ProductCatalog.Proofs.Http.Sharing
import ProductCatalog.Proofs.Catalog.Shutdown
