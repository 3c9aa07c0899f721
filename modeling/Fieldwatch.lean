import Fieldwatch.Json.Text
import Fieldwatch.Alert.Command
import Fieldwatch.Alert.Rules
import Fieldwatch.Sensor.Snapshot
import Fieldwatch.Owner.Snapshot
import Fieldwatch.Event.Message
import Fieldwatch.Outbox.Entry
import Fieldwatch.Store.Tables
import Fieldwatch.World
import Fieldwatch.Inbox.Handling
import Fieldwatch.Ingest.Readings
import Fieldwatch.Ingest.Alerts
import Fieldwatch.Settings.Basic
import Fieldwatch.Broker.Basic
import Fieldwatch.Relay
import Fieldwatch.Pipeline.Basic
import Fieldwatch.Rehearsal.Faulty
import Fieldwatch.Rehearsal.Scene
import Fieldwatch.Endpoint
import Fieldwatch.Rehearsal.Labels
import Fieldwatch.Rehearsal.Report
import Fieldwatch.Rehearsal.Request
import Fieldwatch.Rehearsal.Peer
import Fieldwatch.Rehearsal.Launch
import Fieldwatch.Main
import Fieldwatch.Proofs.Task
import Fieldwatch.Proofs.Store.Rows
import Fieldwatch.Proofs.Inbox.Steps
import Fieldwatch.Proofs.Inbox.Rules
import Fieldwatch.Proofs.Inbox.Redelivery
import Fieldwatch.Proofs.Json.RoundTrip
import Fieldwatch.Proofs.Id.Text
import Fieldwatch.Proofs.Time.Calendar
import Fieldwatch.Proofs.Time.Text
import Fieldwatch.Proofs.Event.Envelope
import Fieldwatch.Proofs.Event.Contract
import Fieldwatch.Proofs.Frame
import Fieldwatch.Proofs.Id.Drawn
import Fieldwatch.Proofs.Ingest.Telling
import Fieldwatch.Proofs.Ingest.Staging
import Fieldwatch.Proofs.Ingest.Readings
import Fieldwatch.Proofs.Ingest.Calls
import Fieldwatch.Proofs.Ingest.Stored
import Fieldwatch.Proofs.Ingest.Exact
import Fieldwatch.Proofs.Store.Outbox
import Fieldwatch.Proofs.Delivery.Passes
import Fieldwatch.Proofs.Delivery.AtLeastOnce
import Fieldwatch.Proofs.Delivery.Draining
import Fieldwatch.Proofs.Broker.Publishing
import Fieldwatch.Proofs.Alert.History
import Fieldwatch.Proofs.Store.Alerts
import Fieldwatch.Proofs.Alert.Races
import Fieldwatch.Proofs.Alert.Once
import Fieldwatch.Proofs.Store.Writes
import Fieldwatch.Proofs.Store.Saves
import Fieldwatch.Proofs.Store.Retention
import Fieldwatch.Proofs.Inbox.Runs
import Fieldwatch.Proofs.Time.Apart
import Fieldwatch.Proofs.Inbox.Latest
import Fieldwatch.Proofs.Sensor.Settling
import Fieldwatch.Proofs.Sensor.Reopening
import Fieldwatch.Proofs.Inbox.Effects
import Fieldwatch.Proofs.Inbox.Accounts
import Fieldwatch.Proofs.Text.Trimmed
import Fieldwatch.Proofs.Inbox.Checks
import Fieldwatch.Proofs.Owner.Retiring
import Fieldwatch.Proofs.Inbox.Consumers
import Fieldwatch.Proofs.Inbox.Integrity
import Fieldwatch.Proofs.Inbox.Races
import Fieldwatch.Proofs.Database.Overheard
import Fieldwatch.Proofs.Database.Transactions
import Fieldwatch.Proofs.Database.Written
import Fieldwatch.Proofs.Database.ReadBack
import Fieldwatch.Proofs.Settings.Numbers
import Fieldwatch.Proofs.Pipeline.Running
import Fieldwatch.Proofs.Ingest.Parts
import Fieldwatch.Proofs.Ingest.Turns
import Fieldwatch.Proofs.Ingest.Batches
import Fieldwatch.Proofs.Inbox.Onward
import Fieldwatch.Proofs.Owner.Settling
import Fieldwatch.Proofs.Alert.Keeping
import Fieldwatch.Proofs.Delivery.Queue
import Fieldwatch.Proofs.Delivery.Bookkeeping
import Fieldwatch.Proofs.Store.Queries
import Fieldwatch.Proofs.Database.Selections
import Fieldwatch.Proofs.Database.Bounds
import Fieldwatch.Proofs.Decimal.Value
import Fieldwatch.Proofs.Decimal.Lengths
import Fieldwatch.Proofs.Validation.Reports
import Fieldwatch.Proofs.Validation.Factories
import Fieldwatch.Proofs.Alert.Crossings
import Fieldwatch.Proofs.Ingest.Alerting
import Fieldwatch.Proofs.Ingest.Counting
import Fieldwatch.Proofs.Json.Forms
import Fieldwatch.Proofs.Broker.Recent
import Fieldwatch.Proofs.Time.Windows
import Fieldwatch.Proofs.Pipeline.Signals
import Fieldwatch.Proofs.Pipeline.Rounds
import Fieldwatch.Proofs.Pipeline.Sparing
import Fieldwatch.Proofs.Pipeline.Stopping
