import Fieldwatch.Ingest.Staging

/-!
# Alert use cases

Raising, acknowledging and resolving alerts. An alert is raised for any sensor with a snapshot;
every step is saved with its integration event. Loading and saving an alert are steps of their
own, and a save from a stale copy is refused.
-/
namespace Fieldwatch.Alerts

variable {σ : Type} [Backend σ]

/-- Saves an alert with the events of what is pending on it. -/
def save (alert : Alert) (context : OperationContext) (source : String) :
    Task σ IngestError Alert := do
  let changes ← Task.ofExcept ((ChangeSet.empty.saveAlert alert).mapError .store)
  let (changes, _) ←
    (changes.stageAlert alert context source).mapError fun (error, _) => .contract error
  let _ ← (Task.commit changes).mapError .store
  return alert.committed

def load (id : EntityId) : Task σ IngestError Alert := do
  match ← (Task.access (Backend.getAlert id)).mapError .store with
  | some alert => return alert
  | none => throw (.alertNotFound id)

def raise (input : NewAlert) (context : OperationContext) : Task σ IngestError Alert := do
  let id ← Task.freshId .entity
  let alert ← Task.ofExcept ((Alert.raise id input (← Task.now)).mapError .validation)
  let known ← (Task.access (Backend.sensorExists input.sensorId .includeInactive)).mapError .store
  if !known then throw (.sensorNotFound input.sensorId)
  save alert context "RaiseAlert"

/-- Acknowledges an alert that was loaded. -/
def acknowledgeLoaded (alert : Alert) (context : OperationContext) : Task σ IngestError Alert := do
  let unnamed ← Task.freshId .entity
  let alert ← Task.ofExcept ((alert.acknowledge context.actor (← Task.now) unnamed).mapError
    fun (error, _) => .alert error)
  save alert context "AcknowledgeAlert"

def acknowledge (id : EntityId) (context : OperationContext) : Task σ IngestError Alert := do
  acknowledgeLoaded (← load id) context

def resolveLoaded (alert : Alert) (notes : Option String) (context : OperationContext) :
    Task σ IngestError Alert := do
  let unnamed ← Task.freshId .entity
  let alert ← Task.ofExcept ((alert.resolve context.actor notes (← Task.now) unnamed).mapError
    fun (error, _) => .alert error)
  save alert context "ResolveAlert"

def resolve (id : EntityId) (notes : Option String) (context : OperationContext) :
    Task σ IngestError Alert := do
  resolveLoaded (← load id) notes context

/-- The alerts of a sensor, the newest first. -/
def ofSensor (id : SensorId) : Task σ IngestError (List AlertRecord) :=
  (Task.access (Backend.alertsForSensor id)).mapError .store

end Fieldwatch.Alerts
