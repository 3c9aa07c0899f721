import Fieldwatch.Event.Message
import Fieldwatch.Ingest.Error
import Fieldwatch.World

/-!
# Staging events

Each thing that happened to a reading or an alert is told to the outside by one integration event,
staged in the change set that stores the thing itself. A staging that fails leaves what it had
staged by then, and answers with it beside the error.
-/
namespace Fieldwatch

/-- Who asked for a use case, and the causal chain it belongs to. -/
structure OperationContext where
  correlationId : CorrelationId
  actor : Option OwnerId
  deriving DecidableEq, Repr

/-- The integration event of what happened to a reading. -/
def ReadingEvent.toMessage (eventId : EventId) : ReadingEvent → Message
  | .recorded data => .sensorIngested {
      eventId
      occurredOn := data.recordedAt
      sensorReadingId := data.readingId
      sensorId := data.sensorId
      time := data.time
      temperature := data.metrics.temperature
      humidity := data.metrics.humidity
      soilMoisture := data.metrics.soilMoisture
      rainfall := data.metrics.rainfall
      batteryLevel := data.metrics.batteryLevel }

/-- The integration event of what happened to an alert of a sensor. -/
def AlertEvent.toMessage (eventId : EventId) (sensorId : SensorId) : AlertEvent → Message
  | .raised data => .alertRaised {
      eventId
      occurredOn := data.raisedAt
      alertId := data.alertId
      sensorId := data.sensorId
      kind := data.kind.name
      severity := data.severity.name
      message := data.message
      value := data.value
      threshold := data.threshold }
  | .acknowledged data => .alertAcknowledged {
      eventId
      occurredOn := data.acknowledgedAt
      alertId := data.alertId
      sensorId
      acknowledgedBy := data.acknowledgedBy }
  | .resolved data => .alertResolved {
      eventId
      occurredOn := data.resolvedAt
      alertId := data.alertId
      sensorId
      resolvedBy := data.resolvedBy
      notes := data.notes }

namespace ChangeSet

variable {σ : Type}

/-- Stages an envelope under a fresh entry identifier. -/
def stageEnvelope {ε : Type} (changes : ChangeSet) (envelope : Envelope) : Task σ ε ChangeSet := do
  return changes.enqueue (.new (← Task.freshId .entry) envelope (← Task.now))

def stageMessage (changes : ChangeSet) (message : Message) (context : OperationContext)
    (source : String) : Task σ (EnvelopeError × ChangeSet) ChangeSet := do
  changes.stageEnvelope
    (← Task.ofExcept ((message.wrap context.correlationId source).mapError (·, changes)))

/-- Stages one event for each pending event of a reading, and counts them. -/
def stageReading (changes : ChangeSet) (reading : Reading) (context : OperationContext)
    (source : String) : Task σ (EnvelopeError × ChangeSet) (ChangeSet × Nat) := do
  let changes ← reading.pending.foldlM (fun changes event => do
    let eventId ← Task.freshId .event
    changes.stageMessage (event.toMessage eventId) context source) changes
  return (changes, reading.pending.length)

/-- Stages one event for each pending event of an alert, and counts them. -/
def stageAlert (changes : ChangeSet) (alert : Alert) (context : OperationContext)
    (source : String) : Task σ (EnvelopeError × ChangeSet) (ChangeSet × Nat) := do
  match alert.state.sensorId with
  | none => throw (.missingField "sensor_id", changes)
  | some sensorId =>
    let changes ← alert.pending.foldlM (fun changes event => do
      let eventId ← Task.freshId .event
      changes.stageMessage (event.toMessage eventId sensorId) context source) changes
    return (changes, alert.pending.length)

end ChangeSet
end Fieldwatch
