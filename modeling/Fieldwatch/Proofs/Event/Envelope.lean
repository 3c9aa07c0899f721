import Fieldwatch.Event.Message
import Fieldwatch.Proofs.Id.Text
import Fieldwatch.Proofs.Time.Text

/-!
# Events in envelopes

Every event is read back from its payload, and every message from the envelope that it is put
into. The envelope says of the event what the event says itself.
-/
namespace Fieldwatch

open Json

/-! ## Payloads -/

instance : LawfulRecord Event.SensorIngested where
  readsBack _ := .of_reads rfl rfl fun _ _ keeps =>
    (keeps.required rfl).map Event.SensorIngested.mk |>.seq (keeps.required rfl)
      |>.seq (keeps.required rfl) |>.seq (keeps.required rfl) |>.seq (keeps.required rfl)
      |>.seq (keeps.optional rfl) |>.seq (keeps.optional rfl) |>.seq (keeps.optional rfl)
      |>.seq (keeps.optional rfl) |>.seq (keeps.optional rfl)

instance : LawfulRecord Event.AlertRaised where
  readsBack _ := .of_reads rfl rfl fun _ _ keeps =>
    (keeps.required rfl).map Event.AlertRaised.mk |>.seq (keeps.required rfl)
      |>.seq (keeps.required rfl) |>.seq (keeps.required rfl) |>.seq (keeps.required rfl)
      |>.seq (keeps.required rfl) |>.seq (keeps.required rfl) |>.seq (keeps.optional rfl)
      |>.seq (keeps.optional rfl)

instance : LawfulRecord Event.AlertAcknowledged where
  readsBack _ := .of_reads rfl rfl fun _ _ keeps =>
    (keeps.required rfl).map Event.AlertAcknowledged.mk |>.seq (keeps.required rfl)
      |>.seq (keeps.required rfl) |>.seq (keeps.required rfl) |>.seq (keeps.optional rfl)

instance : LawfulRecord Event.AlertResolved where
  readsBack _ := .of_reads rfl rfl fun _ _ keeps =>
    (keeps.required rfl).map Event.AlertResolved.mk |>.seq (keeps.required rfl)
      |>.seq (keeps.required rfl) |>.seq (keeps.required rfl) |>.seq (keeps.optional rfl)
      |>.seq (keeps.optional rfl)

instance : LawfulRecord Event.SensorRegistered where
  readsBack _ := .of_reads rfl rfl fun _ _ keeps =>
    (keeps.required rfl).map Event.SensorRegistered.mk |>.seq (keeps.required rfl)
      |>.seq (keeps.required rfl) |>.seq (keeps.required rfl) |>.seq (keeps.required rfl)
      |>.seq (keeps.required rfl) |>.seq (keeps.optional rfl) |>.seq (keeps.required rfl)
      |>.seq (keeps.required rfl) |>.seq (keeps.required rfl)

instance : LawfulRecord Event.SensorDeactivated where
  readsBack _ := .of_reads rfl rfl fun _ _ keeps =>
    (keeps.required rfl).map Event.SensorDeactivated.mk |>.seq (keeps.required rfl)
      |>.seq (keeps.required rfl) |>.seq (keeps.required rfl) |>.seq (keeps.required rfl)
      |>.seq (keeps.optional rfl) |>.seq (keeps.optional rfl)

instance : LawfulRecord Event.SensorOperationalStatusChanged where
  readsBack _ := .of_reads rfl rfl fun _ _ keeps =>
    (keeps.required rfl).map Event.SensorOperationalStatusChanged.mk |>.seq (keeps.required rfl)
      |>.seq (keeps.required rfl) |>.seq (keeps.required rfl) |>.seq (keeps.required rfl)
      |>.seq (keeps.optional rfl) |>.seq (keeps.optional rfl)

instance : LawfulRecord Event.UserCreated where
  readsBack _ := .of_reads rfl rfl fun _ _ keeps =>
    (keeps.required rfl).map Event.UserCreated.mk |>.seq (keeps.required rfl)
      |>.seq (keeps.required rfl) |>.seq (keeps.required rfl) |>.seq (keeps.required rfl)
      |>.seq (keeps.optional rfl)

instance : LawfulRecord Event.UserUpdated where
  readsBack _ := .of_reads rfl rfl fun _ _ keeps =>
    (keeps.required rfl).map Event.UserUpdated.mk |>.seq (keeps.required rfl)
      |>.seq (keeps.required rfl) |>.seq (keeps.required rfl) |>.seq (keeps.required rfl)
      |>.seq (keeps.optional rfl)

instance : LawfulRecord Event.UserDeactivated where
  readsBack _ := .of_reads rfl rfl fun _ _ keeps =>
    (keeps.required rfl).map Event.UserDeactivated.mk |>.seq (keeps.required rfl)
      |>.seq (keeps.required rfl) |>.seq (keeps.required rfl) |>.seq (keeps.required rfl)
      |>.seq (keeps.optional rfl)

/-! ## Envelopes -/

/-- A field finds in an object what was written there. -/
theorem Json.Record.Reads.written {α : Type} [Wire α] [LawfulWire α] {place : Place}
    {fields : List (String × Json)} {name : String} {value : α}
    (given : lookup name fields.reverse = some (encode value)) :
    (Record.required name : Record α).Reads place (lookup · (inKeyOrder fields)) value :=
  .required ((lookup_inKeyOrder name fields).trans given)

/-- An envelope is read back whatever its payload, which may be null. -/
instance : LawfulWire Envelope where
  decode_encode _ _ :=
    Record.decode_of_reads (inKeyOrder_inKeyOrder _).distinct
      ((Record.Reads.written rfl).map Envelope.mk |>.seq (.written rfl) |>.seq (.written rfl)
        |>.seq (.written rfl) |>.seq (.written rfl) |>.seq (.written rfl) |>.seq (.written rfl)
        |>.seq (.written rfl))

namespace Message

def envelope (message : Message) (correlationId : CorrelationId) (source : String) : Envelope where
  eventId := message.eventId
  eventType := message.eventType
  schemaVersion := IntegrationEvent.schemaVersion
  aggregateId := message.aggregateId
  correlationId := correlationId
  source := source
  occurredOn := message.occurredOn
  payload := message.toJson

variable (message : Message) (correlationId : CorrelationId) (source : String)

/-- A message from a source that is not blank is put into its envelope. -/
theorem wrap_eq_ok {source : String} (visible : Text.isBlankText source = false) :
    message.wrap correlationId source = .ok (message.envelope correlationId source) := by
  have named : (some source).filter (fun text => !Text.isBlankText text) = some source := by
    simp [Option.filter, visible]
  cases message <;>
    · simp only [wrap, Envelope.wrap, Envelope.Draft.build, named]
      rfl

theorem ofEnvelope_of_find {ε : Type} [Wire ε] {envelope : Envelope} {name : String}
    {make : ε → Message} {event : ε} (named : envelope.eventType = name)
    (found : (readers.find? fun reader => reader.1 = name) = some (name, reader make))
    (readable : Json.decode ε envelope.payload = .ok event) :
    ofEnvelope envelope = .ok (make event) := by
  simp only [ofEnvelope, named, found, reader, readable]
  rfl

/-- A message is read back from its envelope. -/
theorem ofEnvelope_envelope : ofEnvelope (message.envelope correlationId source) = .ok message := by
  cases message <;> exact ofEnvelope_of_find rfl rfl (decode_encode _ _)

theorem get?_eventId : message.toJson.get? "event_id" = some (encode message.eventId) := by
  cases message <;> exact (get?_record _ _).trans rfl

end Message
end Fieldwatch
