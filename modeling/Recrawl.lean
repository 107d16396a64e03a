import Recrawl.Bytes
import Recrawl.Cli.Arguments
import Recrawl.Cli.Classify
import Recrawl.Cli.Complaint
import Recrawl.Cli.Given
import Recrawl.Cli.Host
import Recrawl.Cli.Inputs
import Recrawl.Cli.Memory
import Recrawl.Cli.Overview
import Recrawl.Cli.Run
import Recrawl.Cli.Usage
import Recrawl.ClueTable
import Recrawl.Digest.Blake3
import Recrawl.Feed
import Recrawl.Filter.Chain
import Recrawl.Glob.Pattern
import Recrawl.Gzip.Bits
import Recrawl.Gzip.Code
import Recrawl.Gzip.Damage
import Recrawl.Gzip.Inflate
import Recrawl.Gzip.Member
import Recrawl.Item.Basic
import Recrawl.Item.Json
import Recrawl.Json.Reader
import Recrawl.Json.Writer
import Recrawl.Link.Inheritance
import Recrawl.Link.UrlFilter
import Recrawl.Log
import Recrawl.Main
import Recrawl.Metadata.Basic
import Recrawl.Metadata.Key
import Recrawl.Number.Binary32
import Recrawl.Number.Binary64
import Recrawl.Number.Decimal
import Recrawl.Number.Rounding
import Recrawl.Path
import Recrawl.Pipeline
import Recrawl.Schedule.Adaptive
import Recrawl.Schedule.Baseline
import Recrawl.Segment.Directory
import Recrawl.Segment.Rotation
import Recrawl.Segment.Sink
import Recrawl.Settings.Basic
import Recrawl.Settings.Decode
import Recrawl.Settings.Fault
import Recrawl.Sitemap.Document
import Recrawl.Sitemap.Entry
import Recrawl.Sitemap.Flags
import Recrawl.Sitemap.Reader
import Recrawl.Sitemap.Recency
import Recrawl.Sitemap.Resolver
import Recrawl.Sitemap.Vocabulary
import Recrawl.Text.Blank
import Recrawl.Text.Columns
import Recrawl.Text.Integer
import Recrawl.Text.Quoted
import Recrawl.Text.Similarity
import Recrawl.Text.Table
import Recrawl.Text.Utf8
import Recrawl.Text.Visible
import Recrawl.Time.Calendar
import Recrawl.Time.Duration
import Recrawl.Time.Field
import Recrawl.Time.Format
import Recrawl.Time.Instant
import Recrawl.Time.Rfc2822
import Recrawl.Time.Rfc3339
import Recrawl.Time.W3c
import Recrawl.Toml.Assignment
import Recrawl.Toml.Cursor
import Recrawl.Toml.Document
import Recrawl.Toml.Moment
import Recrawl.Toml.Node
import Recrawl.Toml.Number
import Recrawl.Toml.Quoted
import Recrawl.Toml.Report
import Recrawl.Unicode.Direction
import Recrawl.Unicode.Emoji
import Recrawl.Unicode.Joining
import Recrawl.Unicode.Mapping
import Recrawl.Unicode.Mark
import Recrawl.Unicode.Normal
import Recrawl.Unicode.Printable
import Recrawl.Unicode.Run
import Recrawl.Unicode.Width
import Recrawl.Url.Address
import Recrawl.Url.Basic
import Recrawl.Url.DomainName
import Recrawl.Url.Host
import Recrawl.Url.Parser
import Recrawl.Url.Path
import Recrawl.Url.Percent
import Recrawl.Url.Punycode
import Recrawl.Value
import Recrawl.Visit
import Recrawl.Xml.Attribute
import Recrawl.Xml.Event
import Recrawl.Xml.Namespace
import Recrawl.Xml.Reference
import Recrawl.Xml.Scanner
import Recrawl.Proofs.ClueTable
import Recrawl.Proofs.Except
import Recrawl.Proofs.Filter.Chain
import Recrawl.Proofs.Filter.Signing
import Recrawl.Proofs.Gzip.Streaming
import Recrawl.Proofs.Item.RoundTrip
import Recrawl.Proofs.Json.Strings
import Recrawl.Proofs.Json.Tables
import Recrawl.Proofs.Link.Chain
import Recrawl.Proofs.Link.Inheritance
import Recrawl.Proofs.Link.Punycode
import Recrawl.Proofs.Link.WrittenHost
import Recrawl.Proofs.Metadata.Entries
import Recrawl.Proofs.Metadata.History
import Recrawl.Proofs.Pipeline.Course
import Recrawl.Proofs.Pipeline.Failure
import Recrawl.Proofs.Pipeline.Kind
import Recrawl.Proofs.Pipeline.Page
import Recrawl.Proofs.Schedule.ChangeDate
import Recrawl.Proofs.Schedule.Drift
import Recrawl.Proofs.Schedule.Frame
import Recrawl.Proofs.Schedule.Interval
import Recrawl.Proofs.Schedule.Next
import Recrawl.Proofs.Schedule.Run
import Recrawl.Proofs.Schedule.WrittenDates
import Recrawl.Proofs.Segment.Counting
import Recrawl.Proofs.Segment.Division
import Recrawl.Proofs.Segment.Name
import Recrawl.Proofs.Segment.Run
import Recrawl.Proofs.Sitemap.Addresses
import Recrawl.Proofs.Sitemap.Alike
import Recrawl.Proofs.Sitemap.Children
import Recrawl.Proofs.Sitemap.Compressed
import Recrawl.Proofs.Sitemap.Continuation
import Recrawl.Proofs.Sitemap.Descent
import Recrawl.Proofs.Sitemap.Detection
import Recrawl.Proofs.Sitemap.Discovery
import Recrawl.Proofs.Sitemap.Document
import Recrawl.Proofs.Sitemap.Draft
import Recrawl.Proofs.Sitemap.FieldText
import Recrawl.Proofs.Sitemap.Frame
import Recrawl.Proofs.Sitemap.Growth
import Recrawl.Proofs.Sitemap.Isolation
import Recrawl.Proofs.Sitemap.Links
import Recrawl.Proofs.Sitemap.PlainList
import Recrawl.Proofs.Sitemap.Prefix
import Recrawl.Proofs.Sitemap.Reading
import Recrawl.Proofs.Sitemap.Recency
import Recrawl.Proofs.Sitemap.Recognition
import Recrawl.Proofs.Sitemap.Refetch
import Recrawl.Proofs.Sitemap.Resolution
import Recrawl.Proofs.Sitemap.Root
import Recrawl.Proofs.Sitemap.Spelling
import Recrawl.Proofs.Sitemap.Stagger
import Recrawl.Proofs.Sitemap.Targets
import Recrawl.Proofs.Sitemap.Verdicts
import Recrawl.Proofs.Sitemap.Widening
import Recrawl.Proofs.Text.Ascii
import Recrawl.Proofs.Text.Integer
import Recrawl.Proofs.Text.Lossy
import Recrawl.Proofs.Text.Trimming
import Recrawl.Proofs.Time.Calendar
import Recrawl.Proofs.Time.Digits
import Recrawl.Proofs.Time.Fields
import Recrawl.Proofs.Time.Http
import Recrawl.Proofs.Time.Shift
import Recrawl.Proofs.Time.W3c
import Recrawl.Proofs.Time.Written
import Recrawl.Proofs.Unicode.Table
import Recrawl.Proofs.Url.Address
import Recrawl.Proofs.Url.Ascii
import Recrawl.Proofs.Url.DomainName
import Recrawl.Proofs.Url.Host
import Recrawl.Proofs.Url.Parser
import Recrawl.Proofs.Url.Punycode
import Recrawl.Proofs.Url.Surrounding
import Recrawl.Proofs.Visit.Acknowledged
import Recrawl.Proofs.Visit.Change
import Recrawl.Proofs.Visit.LinkCount
import Recrawl.Proofs.Visit.Signature
import Recrawl.Proofs.Xml.Growth
import Recrawl.Proofs.Xml.Markup
import Recrawl.Proofs.Xml.RootTag
import Recrawl.Proofs.Xml.Tree
import Recrawl.Proofs.Xml.Value
import Recrawl.Proofs.Xml.Writing
