import Fieldwatch.Sensor.Status
import Fieldwatch.Time.Window

/-!
# Sensor snapshots

The local copy of a sensor that the farm service owns. It is never removed: whether the sensor
accepts readings is its liveness, which follows its status.
-/
namespace Fieldwatch

/-- What a registration tells of a sensor. -/
structure SensorDetails where
  ownerId : OwnerId
  propertyId : PropertyId
  plotId : PlotId
  label : Option String
  plotName : String
  propertyName : String
  deriving DecidableEq

/-- The local copy of a sensor. -/
structure SensorSnapshot where
  id : SensorId
  ownerId : OwnerId
  propertyId : PropertyId
  plotId : PlotId
  label : Option String
  plotName : String
  propertyName : String
  status : SensorStatus
  statusReason : Option String
  lastStatusChangeAt : Option Instant
  isActive : Bool
  createdAt : Instant
  updatedAt : Option Instant
  deriving DecidableEq

namespace SensorSnapshot

/-- The copy of a sensor seen for the first time. -/
def register (id : SensorId) (details : SensorDetails) (status : SensorStatus)
    (occurredOn now : Instant) : SensorSnapshot where
  id := id
  ownerId := details.ownerId
  propertyId := details.propertyId
  plotId := details.plotId
  label := details.label
  plotName := details.plotName
  propertyName := details.propertyName
  status := status
  statusReason := none
  lastStatusChangeAt := some occurredOn
  isActive := status.isActive
  createdAt := now
  updatedAt := none

def details (sensor : SensorSnapshot) : SensorDetails :=
  ⟨sensor.ownerId, sensor.propertyId, sensor.plotId, sensor.label, sensor.plotName,
    sensor.propertyName⟩

/-- The snapshot with other details. Liveness is left alone. -/
def withDetails (sensor : SensorSnapshot) (details : SensorDetails) (now : Instant) :
    SensorSnapshot :=
  { sensor with
    ownerId := details.ownerId, propertyId := details.propertyId, plotId := details.plotId
    label := details.label, plotName := details.plotName, propertyName := details.propertyName
    updatedAt := some now }

/-- The snapshot with the details given, if they differ from its own. -/
def refresh? (sensor : SensorSnapshot) (details : SensorDetails) (now : Instant) :
    Option SensorSnapshot :=
  if sensor.details = details then none else some (sensor.withDetails details now)

/-- The snapshot after a status change. Liveness follows the status. -/
def changeStatus (sensor : SensorSnapshot) (status : SensorStatus) (reason : Option String)
    (occurredOn now : Instant) : SensorSnapshot :=
  { sensor with
    status := status, statusReason := reason, isActive := status.isActive
    lastStatusChangeAt := some occurredOn, updatedAt := some now }

/-- Whether the snapshot shows a status already, as of a time give or take a tolerance. -/
def isDuplicateStatus (sensor : SensorSnapshot) (status : SensorStatus) (occurredOn : Instant)
    (tolerance : Span) : Bool :=
  sensor.status = status && sensor.isActive = status.isActive
    && sensor.lastStatusChangeAt.any fun last => withinTolerance last occurredOn tolerance

/-- Whether a change at a time comes before the last one applied. -/
def isOlderThanLastChange (sensor : SensorSnapshot) (occurredOn : Instant) : Bool :=
  sensor.lastStatusChangeAt.any fun last => occurredOn < last

/-- Whether the sensor is inactive in both status and liveness. -/
def isDeactivated (sensor : SensorSnapshot) : Bool :=
  sensor.status = .inactive && !sensor.isActive

/-- The snapshot after a deactivation, unless it is deactivated already. -/
def deactivate? (sensor : SensorSnapshot) (reason : Option String) (occurredOn now : Instant) :
    Option SensorSnapshot :=
  if sensor.isDeactivated then none
  else some (sensor.changeStatus .inactive reason occurredOn now)

end SensorSnapshot

/-! ## JSON forms -/

instance : Json.Wire SensorDetails where
  encode details := .record
    [("owner_id", Json.encode details.ownerId), ("property_id", Json.encode details.propertyId),
      ("plot_id", Json.encode details.plotId), ("label", Json.encode details.label),
      ("plot_name", Json.encode details.plotName),
      ("property_name", Json.encode details.propertyName)]
  decode := Json.Record.decode (SensorDetails.mk <$> .required "owner_id"
    <*> .required "property_id" <*> .required "plot_id" <*> .optional "label"
    <*> .required "plot_name" <*> .required "property_name") "SensorDetails"

instance : Json.Wire SensorSnapshot where
  encode sensor := .record
    [("id", Json.encode sensor.id), ("owner_id", Json.encode sensor.ownerId),
      ("property_id", Json.encode sensor.propertyId), ("plot_id", Json.encode sensor.plotId),
      ("label", Json.encode sensor.label), ("plot_name", Json.encode sensor.plotName),
      ("property_name", Json.encode sensor.propertyName), ("status", Json.encode sensor.status),
      ("status_reason", Json.encode sensor.statusReason),
      ("last_status_change_at", Json.encode sensor.lastStatusChangeAt),
      ("is_active", Json.encode sensor.isActive), ("created_at", Json.encode sensor.createdAt),
      ("updated_at", Json.encode sensor.updatedAt)]
  decode := Json.Record.decode (SensorSnapshot.mk <$> .required "id" <*> .required "owner_id"
    <*> .required "property_id" <*> .required "plot_id" <*> .optional "label"
    <*> .required "plot_name" <*> .required "property_name" <*> .required "status"
    <*> .optional "status_reason" <*> .optional "last_status_change_at" <*> .required "is_active"
    <*> .required "created_at" <*> .optional "updated_at") "SensorSnapshot"

end Fieldwatch
