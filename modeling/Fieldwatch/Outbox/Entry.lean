import Fieldwatch.Event.Envelope
import Fieldwatch.Time.Window

/-!
# Outbox entries

An integration event that was staged beside the write it tells of, and how far its delivery has
come. A published entry is never delivered again; any other one is tried until its attempts run
out.
-/
namespace Fieldwatch

/-- How far the delivery of an entry has come. -/
inductive OutboxStatus
  /-- Committed and not yet published. -/
  | pending
  /-- Handed to the broker. -/
  | published
  /-- Refused at the last attempt. -/
  | failed
  deriving DecidableEq, Repr

namespace OutboxStatus

def name : OutboxStatus → String
  | pending => "pending"
  | published => "published"
  | failed => "failed"

def named : List (String × OutboxStatus) :=
  [pending, published, failed].map fun status => (status.name, status)

def ofText? (text : String) : Option OutboxStatus :=
  (named.find? fun entry => entry.1 = text).map Prod.snd

instance : Json.Wire OutboxStatus where
  encode status := .str status.name
  decode := Json.decodeChoice named

end OutboxStatus

structure OutboxEntry where
  id : EntryId
  envelope : Envelope
  status : OutboxStatus
  /-- When the entry was staged. -/
  createdAt : Instant
  /-- When the entry was last published or refused. -/
  processedAt : Option Instant
  /-- How many attempts were made to publish it. -/
  attempts : UInt32
  lastError : Option String

namespace OutboxEntry

def new (id : EntryId) (envelope : Envelope) (now : Instant) : OutboxEntry :=
  ⟨id, envelope, .pending, now, none, 0, none⟩

/-- Whether the entry is still to be published. -/
def isDeliverable (entry : OutboxEntry) (maxAttempts : UInt32) : Bool :=
  entry.status ≠ .published && entry.attempts < maxAttempts

/-- Whether the entry was published before a moment. -/
def publishedBefore (entry : OutboxEntry) (cutoff : Instant) : Bool :=
  entry.status = .published && entry.processedAt.any fun moment => moment < cutoff

def markPublished (entry : OutboxEntry) (now : Instant) : OutboxEntry :=
  { entry with status := .published, processedAt := some now, attempts := entry.attempts + 1 }

/-- The entry after the broker refused it. -/
def markFailed (entry : OutboxEntry) (reason : String) (now : Instant) : OutboxEntry :=
  { entry with
    status := .failed, processedAt := some now, attempts := entry.attempts + 1
    lastError := some reason }

instance : Json.Wire OutboxEntry where
  encode entry := .record
    [("id", Json.encode entry.id), ("envelope", Json.encode entry.envelope),
      ("status", Json.encode entry.status), ("created_at", Json.encode entry.createdAt),
      ("processed_at", Json.encode entry.processedAt), ("attempts", Json.encode entry.attempts),
      ("last_error", Json.encode entry.lastError)]
  decode := Json.Record.decode (OutboxEntry.mk <$> .required "id" <*> .required "envelope"
    <*> .required "status" <*> .required "created_at" <*> .optional "processed_at"
    <*> .required "attempts" <*> .optional "last_error") "OutboxEntry"

end OutboxEntry
end Fieldwatch
