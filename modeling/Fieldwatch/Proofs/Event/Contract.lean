import Fieldwatch.Proofs.Event.Envelope

/-!
# The contract of the wire

What a service sends, any other can read, also one that knows the type of the event in another
version: a version has further fields, or leaves out fields that have no value. An envelope is only
ever opened as the type of event that it names.
-/
namespace Fieldwatch

open Json

/-! ## Payloads of other versions -/

namespace Json

def isNull : Json → Bool
  | .null => true
  | _ => false

/-- What a payload becomes in another version: some of the entries without a value are left out,
and further entries are put in. -/
def revised (omits : String → Bool) (further entries : List (String × Json)) :
    List (String × Json) :=
  further.foldl (fun sorted entry => put entry.1 entry.2 sorted)
    (entries.filter fun entry => !(entry.2.isNull && omits entry.1))

/-- Another version keeps what was written, when the further entries are of other fields. -/
theorem InKeyOrder.keeps_revised {entries : List (String × Json)} (sorted : InKeyOrder entries)
    (omits : String → Bool) {further : List (String × Json)}
    (fresh : ∀ entry ∈ further, entry.1 ∉ entries.map Prod.fst) :
    Keeps entries (revised omits further entries) := by
  have left : InKeyOrder (entries.filter fun entry => !(entry.2.isNull && omits entry.1)) :=
    List.Pairwise.filter _ sorted
  refine ⟨(left.foldl_put further).distinct, fun key value found => ?_⟩
  have written := mem_of_lookup found
  have unchanged : lookup key further.reverse = none := by
    apply lookup_eq_none
    intro among
    obtain ⟨entry, added, rfl⟩ := List.mem_map.mp among
    exact fresh entry (List.mem_reverse.mp added) (List.mem_map.mpr ⟨_, written, rfl⟩)
  rw [revised, lookup_foldl_put, unchanged, Option.none_or]
  by_cases gone : value.isNull && omits key
  · -- the one entry of this key is null, and is left out
    right
    constructor
    · cases value <;> simp_all [isNull]
    · apply lookup_eq_none
      intro among
      obtain ⟨entry, kept, rfl⟩ := List.mem_map.mp among
      obtain ⟨member, stays⟩ := List.mem_filter.mp kept
      obtain rfl : entry.2 = value :=
        Option.some.inj ((lookup_of_mem sorted.distinct member).symm.trans found)
      simp [gone] at stays
  · left
    exact lookup_of_mem left.distinct (List.mem_filter.mpr ⟨written, by simp [gone]⟩)

/-- A record is read back from any other version of what was written. -/
theorem LawfulRecord.decode_revised {α : Type} [Wire α] [LawfulRecord α] (value : α) :
    ∃ entries, encode value = .obj entries ∧ ∀ omits further,
      (∀ entry ∈ further, entry.1 ∉ entries.map Prod.fst) →
        Json.decode α (.obj (revised omits further entries)) = .ok value := by
  obtain ⟨entries, encoded, sorted, decoded⟩ := readsBack value
  exact ⟨entries, encoded,
    fun omits _ fresh => decoded .direct _ (sorted.keeps_revised omits fresh)⟩

end Json

/-! ## The types of events -/

theorem Envelope.openAs_of_ne {α : Type} [IntegrationEvent α] {envelope : Envelope}
    (apart : envelope.eventType ≠ IntegrationEvent.eventType α) : envelope.openAs α =
      .error (.typeMismatch (IntegrationEvent.eventType α) envelope.eventType) :=
  if_neg apart

namespace Message

/-- Opens an envelope as the type of event that a message is of. -/
def openAlike : Message → Envelope → Except EnvelopeError Message
  | sensorIngested _, envelope => (envelope.openAs Event.SensorIngested).map sensorIngested
  | sensorRegistered _, envelope => (envelope.openAs Event.SensorRegistered).map sensorRegistered
  | sensorDeactivated _, envelope => (envelope.openAs Event.SensorDeactivated).map sensorDeactivated
  | sensorOperationalStatusChanged _, envelope =>
    (envelope.openAs Event.SensorOperationalStatusChanged).map sensorOperationalStatusChanged
  | userCreated _, envelope => (envelope.openAs Event.UserCreated).map userCreated
  | userUpdated _, envelope => (envelope.openAs Event.UserUpdated).map userUpdated
  | userDeactivated _, envelope => (envelope.openAs Event.UserDeactivated).map userDeactivated
  | alertRaised _, envelope => (envelope.openAs Event.AlertRaised).map alertRaised
  | alertAcknowledged _, envelope => (envelope.openAs Event.AlertAcknowledged).map alertAcknowledged
  | alertResolved _, envelope => (envelope.openAs Event.AlertResolved).map alertResolved

theorem ofEnvelopeAs_eventType (message : Message) (envelope : Envelope) :
    ofEnvelopeAs message.eventType envelope = message.openAlike envelope := by
  have map_mapError {ε : Type} [Wire ε] (make : ε → Message) :
      (reader make envelope.payload).mapError EnvelopeError.unreadable =
        ((Json.decode ε envelope.payload).mapError EnvelopeError.unreadable).map make := by
    simp only [reader]
    cases Json.decode ε envelope.payload <;> rfl
  cases message <;>
  · simp only [openAlike, Envelope.openAs, apply_ite (Except.map _), ← map_mapError]
    rfl

theorem eventType_ne {message other : Message} (apart : message.ctorIdx ≠ other.ctorIdx) :
    message.eventType ≠ other.eventType := by
  -- the readers stand in the order of the types, and no two have one name
  have named (message : Message) :
      (readers.map Prod.fst)[message.ctorIdx]? = some message.eventType := by
    cases message <;> rfl
  have distinct : (readers.map Prod.fst).Nodup := by decide
  intro same
  obtain ⟨within, -⟩ := List.getElem?_eq_some_iff.mp (named message)
  refine apart ((List.getElem?_inj within distinct).mp ?_)
  rw [named, named, same]

theorem openAlike_of_ne {message : Message} {envelope : Envelope}
    (apart : envelope.eventType ≠ message.eventType) :
    message.openAlike envelope = .error (.typeMismatch message.eventType envelope.eventType) := by
  cases message <;> exact congrArg (Except.map _) (Envelope.openAs_of_ne apart)

theorem ofEnvelope_eq_openAlike {message : Message} {envelope : Envelope}
    (named : envelope.eventType = message.eventType) :
    ofEnvelope envelope = message.openAlike envelope := by
  rw [← ofEnvelopeAs_eventType, ofEnvelope, ofEnvelopeAs, named]
  split <;> simp

/-- The field of the payload that names the entity which the event is about. -/
def subjectField : Message → String
  | sensorIngested _ => "sensor_reading_id"
  | sensorRegistered _ | sensorDeactivated _ | sensorOperationalStatusChanged _ => "sensor_id"
  | userCreated _ | userUpdated _ | userDeactivated _ => "owner_id"
  | alertRaised _ | alertAcknowledged _ | alertResolved _ => "alert_id"

/-! ## The contract -/

/-- Whether an envelope carries a message: what it says of the event is what the event and its
payload say. -/
structure CarriedBy (message : Message) (envelope : Envelope) (payload : List (String × Json)) :
    Prop where
  eventId_eq : envelope.eventId = message.eventId
  occurredOn_eq : envelope.occurredOn = message.occurredOn
  aggregateId_eq : envelope.aggregateId = message.aggregateId
  eventType_eq : envelope.eventType = message.eventType
  schemaVersion_eq : envelope.schemaVersion = 1
  payload_eq : envelope.payload = .obj payload
  eventId_held : lookup "event_id" payload = some (encode message.eventId)
  occurredOn_held : lookup "occurred_on" payload = some (encode message.occurredOn)
  subject_held : lookup message.subjectField payload = some (encode message.aggregateId)

/-- A message is read back from any other version of its payload. -/
theorem ofEnvelope_revised (message : Message) :
    ∃ entries, message.toJson = .obj entries ∧ ∀ omits further,
      (∀ entry ∈ further, entry.1 ∉ entries.map Prod.fst) →
        ∀ envelope : Envelope, envelope.eventType = message.eventType →
          envelope.payload = .obj (revised omits further entries) →
            ofEnvelope envelope = .ok message := by
  cases message with
  | _ event =>
    obtain ⟨entries, encoded, decoded⟩ := LawfulRecord.decode_revised event
    refine ⟨entries, encoded, fun omits further fresh envelope named held => ?_⟩
    exact ofEnvelope_of_find named rfl (held ▸ decoded omits further fresh)

theorem get?_toJson (message : Message) :
    message.toJson.get? "event_id" = some (encode message.eventId) ∧
      message.toJson.get? "occurred_on" = some (encode message.occurredOn) ∧
        message.toJson.get? message.subjectField = some (encode message.aggregateId) := by
  cases message <;>
  · refine ⟨?_, ?_, ?_⟩ <;> exact (get?_record _ _).trans rfl

/-- Every message of a source that is not blank is put into an envelope that says the same as its
event, and is read back from it, whatever fields another version of the payload has beside those of
the type and whichever of those without a value it leaves out. As any other type of event the
envelope is refused. -/
theorem read_back_from_wire (message : Message) (correlationId : CorrelationId) (source : String)
    (visible : Text.isBlankText source = false) :
    ∃ envelope payload, message.wrap correlationId source = .ok envelope ∧
      message.CarriedBy envelope payload ∧
      envelope.correlationId = correlationId ∧ envelope.source = source ∧
      ofEnvelope envelope = .ok message ∧ message.openAlike envelope = .ok message ∧
      (∀ omits further, (∀ entry ∈ further, entry.1 ∉ payload.map Prod.fst) →
        ofEnvelope { envelope with payload := .obj (revised omits further payload) } =
          .ok message) ∧
      ∀ other : Message, other.ctorIdx ≠ message.ctorIdx →
        other.openAlike envelope = .error (.typeMismatch other.eventType message.eventType) := by
  obtain ⟨payload, written, compatible⟩ := message.ofEnvelope_revised
  obtain ⟨identity, time, subject⟩ := message.get?_toJson
  rw [written] at identity time subject
  have opened := ofEnvelope_envelope message correlationId source
  refine ⟨message.envelope correlationId source, payload, wrap_eq_ok message correlationId visible,
    ⟨rfl, rfl, rfl, rfl, rfl, written, identity, time, subject⟩, rfl, rfl, opened, ?_, ?_, ?_⟩
  · exact (ofEnvelope_eq_openAlike rfl).symm.trans opened
  · exact fun omits further fresh => compatible omits further fresh _ rfl rfl
  · exact fun other apart => openAlike_of_ne (Ne.symm (eventType_ne apart))

/-- A sensor taken out of use, without a reason. -/
def unexplainedRemoval : Message :=
  .sensorDeactivated ⟨⟨7⟩, .epoch, ⟨1⟩, ⟨4⟩, ⟨3⟩, none, some ⟨2⟩⟩

/-- It is read back where a version leaves out the reason and says where the sensor went. -/
theorem unexplainedRemoval_read_back : ∃ envelope payload,
    unexplainedRemoval.wrap ⟨9⟩ "FarmService" = .ok envelope ∧ envelope.payload = .obj payload ∧
    ofEnvelope { envelope with
      payload := .obj (revised (· = "reason") [("returned_to", .str "Mill")] payload) } =
        .ok unexplainedRemoval ∧
    envelope.openAs Event.UserDeactivated =
      .error (.typeMismatch "UserDeactivated" "SensorDeactivated") := by
  obtain ⟨envelope, payload, wrapped, carried, -, -, -, -, compatible, -⟩ :=
    read_back_from_wire unexplainedRemoval ⟨9⟩ "FarmService" (by decide)
  obtain rfl := Except.ok.inj wrapped
  have held := carried.payload_eq
  obtain rfl := Json.obj.inj held
  refine ⟨_, _, wrapped, held, compatible _ _ ?_, rfl⟩
  intro entry added
  obtain rfl := List.mem_singleton.mp added
  decide

end Message
end Fieldwatch
