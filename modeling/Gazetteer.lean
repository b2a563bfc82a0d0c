import Gazetteer.Address.Block
import Gazetteer.Address.Kind
import Gazetteer.Address.V4
import Gazetteer.Address.V6
import Gazetteer.CommandLine
import Gazetteer.CommandLine.Crew
import Gazetteer.Configuration
import Gazetteer.Database.Cell
import Gazetteer.Database.Draft
import Gazetteer.Database.Edit
import Gazetteer.Database.Picture
import Gazetteer.Database.Query
import Gazetteer.Database.Snapshot
import Gazetteer.Database.Tables
import Gazetteer.Decimal.Literal
import Gazetteer.Decimal.Notation
import Gazetteer.Decimal.Scaled
import Gazetteer.Decimal.Shortest
import Gazetteer.Disk
import Gazetteer.Disk.Access
import Gazetteer.Disk.Edit
import Gazetteer.Disk.Locator
import Gazetteer.Disk.Path
import Gazetteer.Enrichment
import Gazetteer.Enrichment.Plan
import Gazetteer.Error
import Gazetteer.Json.Location
import Gazetteer.Json.Reader
import Gazetteer.Json.Scan
import Gazetteer.Json.Value
import Gazetteer.Json.Writer
import Gazetteer.Lending
import Gazetteer.Location
import Gazetteer.Main
import Gazetteer.Mmdb.Data
import Gazetteer.Mmdb.Lookup
import Gazetteer.Mmdb.Metadata
import Gazetteer.Mmdb.Tree
import Gazetteer.Notice
import Gazetteer.Pipeline
import Gazetteer.Pipeline.Crowd
import Gazetteer.Pool
import Gazetteer.Pool.Crowd
import Gazetteer.Pool.WaitingRoom
import Gazetteer.Proofs.Address.Area
import Gazetteer.Proofs.Address.AreaText
import Gazetteer.Proofs.Address.Checked
import Gazetteer.Proofs.Address.Colons
import Gazetteer.Proofs.Address.Dotted
import Gazetteer.Proofs.Address.Grammar
import Gazetteer.Proofs.Address.Groups
import Gazetteer.Proofs.Address.Network
import Gazetteer.Proofs.Address.Range
import Gazetteer.Proofs.Address.Rows
import Gazetteer.Proofs.CommandLine.Answers
import Gazetteer.Proofs.CommandLine.Asked
import Gazetteer.Proofs.CommandLine.Crew
import Gazetteer.Proofs.Database.Additions
import Gazetteer.Proofs.Database.Seeds
import Gazetteer.Proofs.Disk.Contents
import Gazetteer.Proofs.Disk.House
import Gazetteer.Proofs.Enrichment
import Gazetteer.Proofs.Enrichment.Again
import Gazetteer.Proofs.Enrichment.Asked
import Gazetteer.Proofs.Json.Cases
import Gazetteer.Proofs.Json.Fields
import Gazetteer.Proofs.Json.Grammar
import Gazetteer.Proofs.Json.Location
import Gazetteer.Proofs.Json.Number
import Gazetteer.Proofs.Json.Quoted
import Gazetteer.Proofs.Json.Regular
import Gazetteer.Proofs.Json.Token
import Gazetteer.Proofs.Json.Trimmed
import Gazetteer.Proofs.Json.Visible
import Gazetteer.Proofs.Json.Written
import Gazetteer.Proofs.Pipeline.Crowd
import Gazetteer.Proofs.Pipeline.Log
import Gazetteer.Proofs.Pipeline.Period
import Gazetteer.Proofs.Pipeline.Turn
import Gazetteer.Proofs.Pool.Crowd
import Gazetteer.Proofs.Pool.Queue
import Gazetteer.Proofs.Pool.Rest
import Gazetteer.Proofs.Pool.WaitingRoom
import Gazetteer.Proofs.Recency
import Gazetteer.Proofs.RecencyCache
import Gazetteer.Proofs.RecencyCache.Contents
import Gazetteer.Proofs.RecencyCache.History
import Gazetteer.Proofs.RecencyCache.Inclusion
import Gazetteer.Proofs.Service.Crowd
import Gazetteer.Proofs.Service.Request
import Gazetteer.Proofs.Settings.Accepted
import Gazetteer.Proofs.Settings.ByKey
import Gazetteer.Proofs.Settings.Sizes
import Gazetteer.Proofs.Store.Alone
import Gazetteer.Proofs.Store.Checked
import Gazetteer.Proofs.Store.Command
import Gazetteer.Proofs.Store.Conversation
import Gazetteer.Proofs.Store.Crowd
import Gazetteer.Proofs.Store.Desk
import Gazetteer.Proofs.Store.Effect
import Gazetteer.Proofs.Store.Filling
import Gazetteer.Proofs.Store.Growth
import Gazetteer.Proofs.Store.Insertion
import Gazetteer.Proofs.Store.Opening
import Gazetteer.Proofs.Store.Operation
import Gazetteer.Proofs.Store.Permanence
import Gazetteer.Proofs.Store.Progress
import Gazetteer.Proofs.Store.Relational
import Gazetteer.Proofs.Store.Report
import Gazetteer.Proofs.Store.Return
import Gazetteer.Proofs.Store.Right
import Gazetteer.Proofs.Store.Seeding
import Gazetteer.Proofs.Store.Settled
import Gazetteer.Proofs.Store.Silence
import Gazetteer.Proofs.Store.Team
import Gazetteer.Proofs.Store.Transparency
import Gazetteer.Proofs.Store.Turn
import Gazetteer.Proofs.Text.Integer
import Gazetteer.Proofs.World
import Gazetteer.RecencyCache
import Gazetteer.RecencyCache.History
import Gazetteer.Service
import Gazetteer.Service.Crowd
import Gazetteer.Service.Request
import Gazetteer.Session
import Gazetteer.Session.Shelf
import Gazetteer.Settings
import Gazetteer.Store.Choice
import Gazetteer.Store.Crowd
import Gazetteer.Store.Desk
import Gazetteer.Store.Fixed
import Gazetteer.Store.Operation
import Gazetteer.Store.Relational
import Gazetteer.Store.Script
import Gazetteer.Store.Team
import Gazetteer.Text.Blank
import Gazetteer.Text.Cut
import Gazetteer.Text.DecimalDigit
import Gazetteer.Text.Lines
import Gazetteer.Text.Numeral
import Gazetteer.Text.Utf8
import Gazetteer.World
