import Fieldwatch.Alert.Rules
import Fieldwatch.Ingest.Staging

/-!
# Storing readings

A reading is stored only for a sensor with an active snapshot, together with its integration event
and the alerts that the rules ask for. A batch is stored in one commit; its refused readings are
reported and left out.
-/
namespace Fieldwatch

structure IngestedReading where
  readingId : EntityId
  sensorId : SensorId
  /-- How many events were staged, those of alerts included. -/
  eventsStaged : Nat
  alertsRaised : Nat
  deriving DecidableEq

structure BatchFailure where
  /-- The place of the reading in the batch, from zero. -/
  index : Nat
  sensorId : SensorId
  reason : String
  message : String
  deriving DecidableEq

structure BatchResult where
  readingIds : List EntityId
  failures : List BatchFailure
  deriving DecidableEq

namespace Ingest

variable {σ : Type}

/-- Raises the alerts that rules ask for; the first that has a fault refuses the reading. -/
def raiseAll (inputs : List NewAlert) : Task σ IngestError (List Alert) :=
  inputs.mapM fun input => do
    let id ← Task.freshId .entity
    Task.ofExcept ((Alert.raise id input (← Task.now)).mapError .validation)

/-- Stages a reading, the alerts that rules ask for, and the events of all of them. The alerts are
raised before anything is staged. -/
def stage (rules : Option AlertRules) (changes : ChangeSet) (reading : Reading)
    (context : OperationContext) (source : String) :
    Task σ (IngestError × ChangeSet) (ChangeSet × IngestedReading) := do
  match reading.state.id, reading.state.sensorId with
  | some readingId, some sensorId =>
    let alerts ← match rules with
      | some rules => (raiseAll (rules.evaluateReading reading.state)).mapError (·, changes)
      | none => pure []
    let changes ← Task.ofExcept ((changes.addReading reading).mapError (.store ·, changes))
    let (changes, staged) ←
      (changes.stageReading reading context source).mapError (Prod.map .contract id)
    let (changes, staged) ← alerts.foldlM (fun (changes, staged) alert => do
      let changes ← Task.ofExcept ((changes.saveAlert alert).mapError (.store ·, changes))
      let (changes, more) ←
        (changes.stageAlert alert context source).mapError (Prod.map .contract id)
      return (changes, staged + more)) (changes, staged)
    return (changes, ⟨readingId, sensorId, staged, alerts.length⟩)
  | _, _ => throw (.store (.uninitialized "SensorReading"), changes)

def reject (reason : String) : Task σ IngestError Unit :=
  Task.count (.readingsRejected reason) 1

variable [Backend σ]

def ingest (rules : Option AlertRules) (input : NewReading) (context : OperationContext) :
    Task σ IngestError IngestedReading := do
  let id ← Task.freshId .entity
  match Reading.create id input (← Task.now) with
  | .error faults =>
    reject "validation"
    throw (.validation faults)
  | .ok reading =>
    let active ← (Task.access (Backend.sensorExists input.sensorId .activeOnly)).mapError .store
    if !active then
      reject "sensor_not_found"
      throw (.sensorNotFound input.sensorId)
    let (changes, ingested) ←
      (stage rules .empty reading context "IngestReading").mapError Prod.fst
    let _ ← (Task.commit changes).mapError .store
    Task.count .readingsAccepted 1
    return ingested

/-- Puts an identifier at its place among others in order, once. -/
def insertId (id : SensorId) : List SensorId → List SensorId
  | [] => [id]
  | other :: rest =>
    if id < other then id :: other :: rest
    else if id = other then other :: rest
    else other :: insertId id rest

/-- The sensors that a batch names, each once, in order. -/
def sensorsOf (inputs : List NewReading) : List SensorId :=
  inputs.foldl (fun ids input => insertId input.sensorId ids) []

/-- Stages one reading of a batch, given the sensors that are active. -/
def stageOne (rules : Option AlertRules) (active : List SensorId) (changes : ChangeSet)
    (input : NewReading) (context : OperationContext) :
    Task σ (IngestError × ChangeSet) (ChangeSet × IngestedReading) := do
  let id ← Task.freshId .entity
  match Reading.create id input (← Task.now) with
  | .error faults => throw (.validation faults, changes)
  | .ok reading =>
    if input.sensorId ∉ active then throw (.sensorNotFound input.sensorId, changes)
    stage rules changes reading context "IngestReadingBatch"

/-- Stages the readings of a batch from a place on. A rejected one is counted and reported, and the
batch goes on with the change set that it left. -/
def stageAll (rules : Option AlertRules) (active : List SensorId) (context : OperationContext) :
    Nat → ChangeSet → BatchResult → List NewReading → Task σ IngestError (ChangeSet × BatchResult)
  | _, changes, result, [] => return (changes, result)
  | index, changes, result, input :: rest => fun world =>
    match stageOne rules active changes input context world with
    | (.ok (changes, ingested), world) =>
      stageAll rules active context (index + 1) changes
        { result with readingIds := result.readingIds ++ [ingested.readingId] } rest world
    | (.error (error, changes), world) =>
      if error.isRejection then
        let failure := ⟨index, input.sensorId, error.reason, error.message⟩
        let counters := world.counters.add (.readingsRejected error.reason) 1
        stageAll rules active context (index + 1) changes
          { result with failures := result.failures ++ [failure] } rest { world with counters }
      else (.error error, world)

/-- Stores the acceptable readings of a batch in one commit. -/
def ingestBatch (rules : Option AlertRules) (inputs : List NewReading)
    (context : OperationContext) : Task σ IngestError BatchResult := do
  let sensors ← (Task.access (Backend.getSensors (sensorsOf inputs) .activeOnly)).mapError .store
  let (changes, result) ←
    stageAll rules (sensors.map SensorSnapshot.id) context 0 .empty ⟨[], []⟩ inputs
  if !changes.isEmpty then
    let _ ← (Task.commit changes).mapError .store
    Task.count .readingsAccepted result.readingIds.length
  return result

/-- The stored readings that a query asks for. -/
def readings (query : ReadingQuery) : Task σ IngestError (List ReadingRecord) :=
  (Task.access (Backend.queryReadings query)).mapError .store

end Ingest
end Fieldwatch
