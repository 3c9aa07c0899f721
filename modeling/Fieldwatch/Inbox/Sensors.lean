import Fieldwatch.Inbox.Outcome
import Fieldwatch.Inbox.Policy

/-!
# Events about sensors

How registrations, status changes and deactivations change a sensor snapshot. A registration never
changes liveness; a status change or deactivation older than the last one is stale.
-/
namespace Fieldwatch

/-- The greatest length of a name, in characters. -/
def maxNameLength : Nat := 255

namespace Event

/-- The status of a registration, or what is wrong with it. -/
def SensorRegistered.check (event : SensorRegistered) : Except String SensorStatus :=
  if event.sensorId.isNil then .error "sensor_id is nil"
  else if event.ownerId.isNil || event.propertyId.isNil || event.plotId.isNil then
    .error "owner, property and plot ids are required"
  else if Text.isBlankText event.plotName || Text.isBlankText event.propertyName then
    .error "plot and property names are required"
  else if ([event.plotName, event.propertyName] ++ event.label.toList).any fun name =>
      maxNameLength < name.length then
    .error ("names are limited to " ++ toString maxNameLength ++ " characters")
  else (SensorStatus.ofText event.status).mapError UnknownName.message

/-- What a registration tells of the sensor. -/
def SensorRegistered.details (event : SensorRegistered) : SensorDetails :=
  ⟨event.ownerId, event.propertyId, event.plotId, event.label, event.plotName, event.propertyName⟩

/-- A registration stores a new snapshot, or gives the stored one the details it tells of. -/
def SensorRegistered.decide (event : SensorRegistered) (status : SensorStatus)
    (stored : Option SensorSnapshot) (now : Instant) : Decision :=
  match stored with
  | none =>
    .write (ChangeSet.empty.writeSensor
      (.add (.register event.sensorId event.details status event.occurredOn now))) .created
  | some sensor =>
    match sensor.refresh? event.details now with
    | none => .skip .duplicate
    | some sensor => .write (ChangeSet.empty.writeSensor (.update sensor)) .applied

def SensorDeactivated.check (event : SensorDeactivated) : Except String Unit :=
  if event.sensorId.isNil then .error "sensor_id is nil" else .ok ()

/-- A deactivation makes a stored sensor inactive, unless it is already or has changed since. -/
def SensorDeactivated.decide (event : SensorDeactivated) (stored : Option SensorSnapshot)
    (now : Instant) : Decision :=
  match stored with
  | none => .skip .notFound
  | some sensor =>
    if sensor.isDeactivated then .skip .duplicate
    else if sensor.isOlderThanLastChange event.occurredOn then .skip .stale
    else
      .write (ChangeSet.empty.writeSensor
        (.update (sensor.changeStatus .inactive event.reason event.occurredOn now))) .applied

/-- The status of a status change, or what is wrong with it. -/
def SensorOperationalStatusChanged.check (event : SensorOperationalStatusChanged) :
    Except String SensorStatus :=
  if event.sensorId.isNil then .error "sensor_id is nil"
  else
    (SensorStatus.ofText event.newStatus).mapError fun unknown =>
      "new_status: " ++ unknown.message

/-- A status change applies to a stored sensor, unless it restates its status or is older. -/
def SensorOperationalStatusChanged.decide (event : SensorOperationalStatusChanged)
    (policy : StalenessPolicy) (status : SensorStatus) (stored : Option SensorSnapshot)
    (now : Instant) : Decision :=
  match stored with
  | none => .skip .notFound
  | some sensor =>
    if sensor.isDuplicateStatus status event.occurredOn policy.tolerance then .skip .duplicate
    else if sensor.isOlderThanLastChange event.occurredOn then .skip .stale
    else
      .write (ChangeSet.empty.writeSensor
        (.update (sensor.changeStatus status event.reason event.occurredOn now))) .applied

end Event
end Fieldwatch
