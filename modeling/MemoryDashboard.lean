import MemoryDashboard.Json.Value
import MemoryDashboard.Json.Read
import MemoryDashboard.Json.Write
import MemoryDashboard.Json.Decode
import MemoryDashboard.Json.Lenient
import MemoryDashboard.Decimal.Basic
import MemoryDashboard.Decimal.Shortest
import MemoryDashboard.Decimal.Nearest
import MemoryDashboard.Decimal.Layout
import MemoryDashboard.Decimal.Fixed
import MemoryDashboard.Decimal.Read
import MemoryDashboard.Decimal.Truncate
import MemoryDashboard.Text.Ranges
import MemoryDashboard.Text.Blank
import MemoryDashboard.Text.Classes
import MemoryDashboard.Text.Case
import MemoryDashboard.Text.Label
import MemoryDashboard.Time.Calendar
import MemoryDashboard.Time.Instant
import MemoryDashboard.Time.Age
import MemoryDashboard.Display.Figures
import MemoryDashboard.Feed.Item
import MemoryDashboard.Feed.Signal
import MemoryDashboard.Feed.Page
import MemoryDashboard.Feed.Merge
import MemoryDashboard.Feed.Filter
import MemoryDashboard.Feed.Observation
import MemoryDashboard.Feed.Summary
import MemoryDashboard.Feed.Card
import MemoryDashboard.Health.Signal
import MemoryDashboard.Health.Score
import MemoryDashboard.Health.Actions
import MemoryDashboard.Sync.Status
import MemoryDashboard.Health.Inputs
import MemoryDashboard.Health.Overview
import MemoryDashboard.Sync.Address
import MemoryDashboard.Sync.View
import MemoryDashboard.Text.Base64
import MemoryDashboard.Sync.Pairing
import MemoryDashboard.Url.Host
import MemoryDashboard.Url.Parse
import MemoryDashboard.Plugin.Version
import MemoryDashboard.Plugin.Runner
import MemoryDashboard.Plugin.Toast
import MemoryDashboard.Plugin.WorkingSet
import MemoryDashboard.Settings.Form
import MemoryDashboard.Settings.View
import MemoryDashboard.Refresh.Gate
import MemoryDashboard.Storage.Disk
import MemoryDashboard.Prefs.Theme
import MemoryDashboard.Prefs.Store
import MemoryDashboard.Toml.Scalar
import MemoryDashboard.Toml.Document
import MemoryDashboard.Config.Viewer
import MemoryDashboard.Config.Dotenv
import MemoryDashboard.Net.Address
import MemoryDashboard.Net.Bind
import MemoryDashboard.Startup
import MemoryDashboard.Backend.Interface
import MemoryDashboard.Feed.Store
import MemoryDashboard.Dashboard.State
import MemoryDashboard.Dashboard.Cycle
import MemoryDashboard.Backend.Scripted
import MemoryDashboard.Backend.FeedRun
import MemoryDashboard.Text.Utf8
import MemoryDashboard.Api.Http
import MemoryDashboard.Api.Router
import MemoryDashboard.Backend.ApiRun
import MemoryDashboard.Dashboard.Polling
import MemoryDashboard.Backend.DashboardRun
import MemoryDashboard.Client.Http
import MemoryDashboard.Client.Run
import MemoryDashboard.Metrics.Registry
import MemoryDashboard.Main
import MemoryDashboard.Proofs.Text.Lower
import MemoryDashboard.Proofs.Text.Ranges
import MemoryDashboard.Proofs.Json.Canonical
import MemoryDashboard.Proofs.Json.Compact
import MemoryDashboard.Proofs.Json.Cursor
import MemoryDashboard.Proofs.Json.ReadNumber
import MemoryDashboard.Proofs.Json.ReadSteps
import MemoryDashboard.Proofs.Json.ReadBack
import MemoryDashboard.Proofs.Json.ReadPretty
import MemoryDashboard.Proofs.Storage.Disk
import MemoryDashboard.Proofs.Prefs.Persistence
import MemoryDashboard.Proofs.Feed.Merge
import MemoryDashboard.Proofs.Feed.LastWins
import MemoryDashboard.Proofs.Feed.Wire
import MemoryDashboard.Proofs.Feed.Signature
import MemoryDashboard.Proofs.Feed.MergeLaws
import MemoryDashboard.Proofs.Feed.Key
import MemoryDashboard.Proofs.Feed.Store
import MemoryDashboard.Proofs.Feed.Calls
import MemoryDashboard.Proofs.Feed.Interleaving
import MemoryDashboard.Proofs.Feed.Safety
import MemoryDashboard.Proofs.Feed.Guarantees
import MemoryDashboard.Proofs.Feed.Cursors
import MemoryDashboard.Proofs.Feed.Sections
import MemoryDashboard.Proofs.Feed.Query
import MemoryDashboard.Proofs.Feed.Sentences
import MemoryDashboard.Proofs.Dashboard.Interleaving
import MemoryDashboard.Proofs.Dashboard.Publication
import MemoryDashboard.Proofs.Dashboard.RefreshState
import MemoryDashboard.Proofs.Dashboard.Polling
import MemoryDashboard.Proofs.Refresh.Gate
import MemoryDashboard.Proofs.Health.Scoring
import MemoryDashboard.Proofs.Health.Pending
import MemoryDashboard.Proofs.Sync.Redaction
import MemoryDashboard.Proofs.Text.Blank
import MemoryDashboard.Proofs.Text.Thousands
import MemoryDashboard.Proofs.Text.Base64
import MemoryDashboard.Proofs.Text.Normalize
import MemoryDashboard.Proofs.Text.Words
import MemoryDashboard.Proofs.Plugin.Version
import MemoryDashboard.Proofs.Sync.Addresses
import MemoryDashboard.Proofs.Sync.Situation
import MemoryDashboard.Proofs.Sync.Pairing
import MemoryDashboard.Proofs.Decimal.Bits
import MemoryDashboard.Proofs.Decimal.Ratio
import MemoryDashboard.Proofs.Decimal.Nearest
import MemoryDashboard.Proofs.Decimal.Shortest
import MemoryDashboard.Proofs.Decimal.Text
import MemoryDashboard.Proofs.Settings.Payload
