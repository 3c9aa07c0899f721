import Fieldwatch.Broker.Basic

/-!
# The relay

Moves committed outbox entries to the broker. An entry is marked as published only after the
broker took it, so what is lost in between is published again; a refusal is written down on the
entry and does not stop the pass, but a failure of the store does.
-/
namespace Fieldwatch

structure Relay where
  /-- An entry refused this often is given up. -/
  maxAttempts : UInt32
  /-- How long published entries are kept, in nanoseconds; without it they are kept for good. -/
  retention : Option Nat := none
  deriving DecidableEq, Repr

structure RelayReport where
  published : Nat := 0
  failed : Nat := 0
  deriving DecidableEq, Repr

/-- Whether a pass found nothing to publish. -/
def RelayReport.isIdle (report : RelayReport) : Bool :=
  report.published = 0 && report.failed = 0

def RelayReport.after (report : RelayReport) : Except BrokerError Unit → RelayReport
  | .ok _ => { report with published := report.published + 1 }
  | .error _ => { report with failed := report.failed + 1 }

namespace Relay

variable {τ σ : Type} [Backend σ] [Hosts τ σ]

/-- The first step of a pass: the entries to publish. -/
def fetch (relay : Relay) (batch : UInt64) : Task σ StoreError (List OutboxEntry) :=
  .access (Backend.fetchUnpublished batch relay.maxAttempts)

/-- The last step for an entry: writes down whether the broker took it. -/
def settle (entry : OutboxEntry) : Except BrokerError Unit → Task σ StoreError Unit
  | .ok _ => do
    Task.access (Backend.markPublished entry.id (← Task.now))
    Task.count .eventsPublished 1
  | .error error => do
    let _ ← Task.access (Backend.markFailed entry.id error.message (← Task.now))
    Task.count .publishFailures 1

/-- Publishes entries in order and settles each. -/
def dispatchAll (publish : Envelope → StateM τ (Except BrokerError Unit)) :
    RelayReport → List OutboxEntry → StateM τ (Except StoreError RelayReport)
  | report, [] => return .ok report
  | report, entry :: rest => do
    let result ← publish entry.envelope
    match ← Hosts.run (settle entry result) with
    | .error error => return .error error
    | .ok _ => dispatchAll publish (report.after result) rest

def dispatch (relay : Relay) (publish : Envelope → StateM τ (Except BrokerError Unit))
    (batch : UInt64) : StateM τ (Except StoreError RelayReport) := do
  match ← Hosts.run (relay.fetch batch) with
  | .error error => return .error error
  | .ok entries => dispatchAll publish {} entries

/-- Drops the published entries that were kept long enough, and counts them. -/
def prune (relay : Relay) : Task σ StoreError Nat := do
  match relay.retention with
  | none => return 0
  | some retention =>
    let count ← Task.access (Backend.prunePublished retention (← Task.now))
    if 0 < count then Task.count .entriesPruned count
    return count

end Relay
end Fieldwatch
