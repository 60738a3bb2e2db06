import ProxSync.Lib.System
import ProxSync.Lib.Table
import ProxSync.Lib.Ranking
import ProxSync.Lib.Dealings
import ProxSync.Lib.Text
import ProxSync.Lib.Recurrence
import ProxSync.Lib.OrderedDict
import ProxSync.Lib.Deque
import ProxSync.Lib.Procedure
import ProxSync.Lib.Numeral
import ProxSync.Lib.Calendar
import ProxSync.Lib.Double
import ProxSync.Lib.Raising
import ProxSync.Lib.Value
import ProxSync.Lib.Trim
import ProxSync.Lib.Pattern
import ProxSync.Lib.Utf8
import ProxSync.Lib.Markup
import ProxSync.Lib.Format
import ProxSync.Lib.Json
import ProxSync.Lib.JsonText
import ProxSync.Lib.Dumps
import ProxSync.Lib.Lines
import ProxSync.Lib.Keyset
import ProxSync.Lib.Alarm
import ProxSync.Lib.EventStream
import ProxSync.Lib.CommandLine
import ProxSync.Lib.Printable
import ProxSync.Lib.Csv
import ProxSync.Lib.Compact
import ProxSync.Schemas
import ProxSync.Retention.Repository
import ProxSync.Retention.Policy
import ProxSync.Retention.Service
import ProxSync.Retention.Classify
import ProxSync.Retention.Safety
import ProxSync.Retention.Worker
import ProxSync.Retention.Pass
import ProxSync.Retention.Audit
import ProxSync.Retention.Provenance
import ProxSync.Retention.Deletions
import ProxSync.Retention.Repeat
import ProxSync.Retention.Preview
import ProxSync.Retention.Triggers
import ProxSync.History.Writers
import ProxSync.History.Lifecycle
import ProxSync.History.Artifact
import ProxSync.Runner.Executor
import ProxSync.Runner.Steps
import ProxSync.Runner.Ledger
import ProxSync.Runner.Writes
import ProxSync.Runner.Progress
import ProxSync.Runner.Summary
import ProxSync.Runner.Starts
import ProxSync.Runner.Cancel
import ProxSync.Runner.Finalise
import ProxSync.Runner.Outcome
import ProxSync.Runner.Requests
import ProxSync.Restore.Outcome
import ProxSync.Restore.Desk
import ProxSync.Restore.Turns
import ProxSync.Restore.Deletions
import ProxSync.Restore.Authorised
import ProxSync.Sync.Worker
import ProxSync.Sync.Steps
import ProxSync.Sync.Coherence
import ProxSync.Sync.Uploading
import ProxSync.Sync.Cancel
import ProxSync.Sync.Attempts
import ProxSync.Sync.Exclusive
import ProxSync.Sync.Location
import ProxSync.Auth.Sessions
import ProxSync.Auth.Client
import ProxSync.Auth.RateLimit
import ProxSync.Auth.Login
import ProxSync.Auth.Limiter
import ProxSync.Logs.Sink
import ProxSync.Logs.Export
import ProxSync.Logs.Context
import ProxSync.Logs.Lines
import ProxSync.Logs.Formats
import ProxSync.Events.Bus
import ProxSync.Events.Stream
import ProxSync.Workers.Loop
import ProxSync.Outbox.Notifications
import ProxSync.Outbox.Budget
import ProxSync.Outbox.Dedupe
import ProxSync.Agent.Checksum
import ProxSync.Agent.Enforcement
import ProxSync.Agent.Validators
import ProxSync.Agent.Deletion
import ProxSync.Retention.Markers
import ProxSync.Agent.Signature
import ProxSync.Agent.Freshness
import ProxSync.Agent.Binding
import ProxSync.Agent.Task
import ProxSync.Agent.Journal
import ProxSync.Agent.Survival
import ProxSync.Agent.Commands
import ProxSync.Agent.Meaning
import ProxSync.Agent.Slots
import ProxSync.Scheduler.CatchUp
import ProxSync.Scheduler.Weekday
import ProxSync.Scheduler.Registration
import ProxSync.Scheduler.Firing
import ProxSync.Scheduler.Schedules
import ProxSync.Scheduler.Resync
import ProxSync.Scheduler.Rest
import ProxSync.Scheduler.Dashboard
import ProxSync.Clients.Breaker
import ProxSync.Clients.Signed
import ProxSync.Clients.Exchange
import ProxSync.Outbox.Templates
import ProxSync.Outbox.Truncation
import ProxSync.Agent.Artifacts
import ProxSync.Agent.Listing
import ProxSync.Agent.Rclone
import ProxSync.Agent.Pvesm
import ProxSync.Settings.Fields
import ProxSync.Settings.Remotes
import ProxSync.Settings.Models
import ProxSync.Settings.Service
import ProxSync.Settings.Checks
import ProxSync.Settings.Rows
import ProxSync.Settings.Seeding
import ProxSync.Settings.Stability
import ProxSync.Inventory.Service
import ProxSync.Restore.Preflight
import ProxSync.Storage.Alerts
import ProxSync.Storage.Import
