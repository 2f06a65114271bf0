import WorkFarm.Backlog
import WorkFarm.Backoff
import WorkFarm.Config.Error
import WorkFarm.Config.Load
import WorkFarm.Config.Settings
import WorkFarm.Crew
import WorkFarm.Crew.Yard
import WorkFarm.Decimal.Numeral
import WorkFarm.Decimal.Shortest
import WorkFarm.Decimal.Word
import WorkFarm.Dispatcher.Basic
import WorkFarm.Dispatcher.Batch
import WorkFarm.Dispatcher.Journal
import WorkFarm.Dispatcher.Request
import WorkFarm.Dispatcher.Storage
import WorkFarm.Farm.Basic
import WorkFarm.Farm.Error
import WorkFarm.Farm.Site
import WorkFarm.Heartbeat
import WorkFarm.Heartbeat.Rhythm
import WorkFarm.Instant
import WorkFarm.Json.Basic
import WorkFarm.Json.Reader
import WorkFarm.Json.Writer
import WorkFarm.Link
import WorkFarm.Log.Filter
import WorkFarm.Log.Level
import WorkFarm.Main
import WorkFarm.Order
import WorkFarm.Outbox
import WorkFarm.Program.Arguments
import WorkFarm.Program.Basic
import WorkFarm.Program.Demo
import WorkFarm.Program.Help
import WorkFarm.Program.Report
import WorkFarm.Program.Usage
import WorkFarm.Record.Datum
import WorkFarm.Record.Decode
import WorkFarm.Record.Settings
import WorkFarm.Record.Task
import WorkFarm.Resource
import WorkFarm.Roster
import WorkFarm.Table
import WorkFarm.Task
import WorkFarm.Text.Blank
import WorkFarm.Text.Shown
import WorkFarm.Text.Sorted
import WorkFarm.Timeline
import WorkFarm.Vault
import WorkFarm.Word
import WorkFarm.Worker.Basic
import WorkFarm.Worker.Floor
import WorkFarm.Worker.Script
import WorkFarm.Worker.Trial
import WorkFarm.Yaml.Cursor
import WorkFarm.Yaml.Node
import WorkFarm.Yaml.Plain
import WorkFarm.Yaml.Scalar
import WorkFarm.Yaml.Token
import WorkFarm.Proofs.Looks
import WorkFarm.Proofs.Steps
import WorkFarm.Proofs.Books
import WorkFarm.Proofs.Table
import WorkFarm.Proofs.Agreement
import WorkFarm.Proofs.Accounting
import WorkFarm.Proofs.Roster
import WorkFarm.Proofs.Workers
import WorkFarm.Proofs.Holders
import WorkFarm.Proofs.Works
import WorkFarm.Proofs.Outcomes
import WorkFarm.Proofs.Conservation
import WorkFarm.Proofs.Catalogue
import WorkFarm.Proofs.Ledger
import WorkFarm.Proofs.Aside
import WorkFarm.Proofs.Waits
import WorkFarm.Proofs.Promptness
import WorkFarm.Proofs.Sleepers
import WorkFarm.Proofs.Occupation
import WorkFarm.Proofs.Custody
import WorkFarm.Proofs.Answers
import WorkFarm.Proofs.Steady
import WorkFarm.Proofs.Delivery
import WorkFarm.Proofs.Onlookers
import WorkFarm.Proofs.Batching
import WorkFarm.Proofs.Unseen
import WorkFarm.Proofs.Traceless
import WorkFarm.Proofs.Watches
import WorkFarm.Proofs.Carried
import WorkFarm.Proofs.Vigil
import WorkFarm.Proofs.Reports
import WorkFarm.Proofs.Seniority
import WorkFarm.Proofs.Depot
import WorkFarm.Proofs.Backing
import WorkFarm.Proofs.Farewell
import WorkFarm.Proofs.Resubmission
import WorkFarm.Proofs.Pulse
import WorkFarm.Proofs.Rousing
import WorkFarm.Proofs.Compaction
import WorkFarm.Proofs.Keeping
import WorkFarm.Proofs.Workday
import WorkFarm.Proofs.Backoff
import WorkFarm.Proofs.Crew
import WorkFarm.Proofs.Handover
import WorkFarm.Proofs.Loop
import WorkFarm.Proofs.Recall
import WorkFarm.Proofs.Pings
