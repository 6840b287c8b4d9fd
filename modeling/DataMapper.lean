import DataMapper.Connection.Basic
import DataMapper.Connection.Cursor
import DataMapper.Connection.Embedded
import DataMapper.Connection.Scripted
import DataMapper.Database.Basic
import DataMapper.Enum
import DataMapper.Extension.Basic
import DataMapper.Failure
import DataMapper.Generation.Apply
import DataMapper.Generation.Literal
import DataMapper.Generation.Source
import DataMapper.Json.Read
import DataMapper.Json.Write
import DataMapper.Mapper.Basic
import DataMapper.Mapper.Read
import DataMapper.Mapper.Write
import DataMapper.Mapping.Convert
import DataMapper.Mapping.Row
import DataMapper.Metadata.Basic
import DataMapper.Metadata.Build
import DataMapper.Metadata.Cache
import DataMapper.Model.Basic
import DataMapper.Model.Forward
import DataMapper.Model.Type
import DataMapper.Number.Binary64
import DataMapper.Number.Decimal
import DataMapper.Number.DecimalArith
import DataMapper.Number.Extended
import DataMapper.Number.Parse
import DataMapper.Number.Shortest
import DataMapper.Page
import DataMapper.Proofs.Describe
import DataMapper.Proofs.Except
import DataMapper.Proofs.RoundTrip
import DataMapper.Regex.Match
import DataMapper.Regex.Syntax
import DataMapper.Registry
import DataMapper.Request.Basic
import DataMapper.Request.Decode
import DataMapper.Request.Describe
import DataMapper.Request.Encode
import DataMapper.Request.Extension
import DataMapper.Request.Pipeline
import DataMapper.Request.Respond
import DataMapper.Request.Session
import DataMapper.Sql.Dialect
import DataMapper.Sql.Generator
import DataMapper.Sql.Placeholder
import DataMapper.Sql.Statement
import DataMapper.Store.Collation
import DataMapper.Store.Datum
import DataMapper.Store.Engine
import DataMapper.Store.Eval
import DataMapper.Store.Expr
import DataMapper.Store.Format
import DataMapper.Store.Functions
import DataMapper.Store.Operators
import DataMapper.Store.Parse
import DataMapper.Store.Prepare
import DataMapper.Store.Reading
import DataMapper.Store.RealText
import DataMapper.Store.Resolve
import DataMapper.Store.Run
import DataMapper.Store.Syntax
import DataMapper.Store.Table
import DataMapper.Store.Token
import DataMapper.Store.Window
import DataMapper.Tag.Basic
import DataMapper.Tag.Resolve
import DataMapper.Text.Blank
import DataMapper.Text.Case
import DataMapper.Text.CaseTable
import DataMapper.Text.CharName
import DataMapper.Text.Identifier
import DataMapper.Text.IdentifierTable
import DataMapper.Text.Letter
import DataMapper.Text.LetterTable
import DataMapper.Text.NameTable
import DataMapper.Text.PrintableTable
import DataMapper.Text.Quote
import DataMapper.Text.RangeTable
import DataMapper.Text.Surrogate
import DataMapper.Time.Calendar
import DataMapper.Time.Iso
import DataMapper.Validation.Check
import DataMapper.Validation.Entity
import DataMapper.Value.Arith
import DataMapper.Value.Basic
import DataMapper.Value.Cast
import DataMapper.Value.Compare
import DataMapper.Value.Text
import DataMapper.Value.Uuid
import DataMapper.Proofs.Placeholders
import DataMapper.Proofs.Statements
import DataMapper.Proofs.Writes
import DataMapper.Proofs.EnumColumn
import DataMapper.Proofs.Transactions
import DataMapper.Proofs.GeneratedKeys
import DataMapper.Proofs.DriverBinding
import DataMapper.Proofs.Filling
import DataMapper.Proofs.Checking
import DataMapper.Proofs.Ordering
import DataMapper.Proofs.Resolution
import DataMapper.Proofs.TypedReads
import DataMapper.Proofs.NearestDouble
import DataMapper.Proofs.Paging
