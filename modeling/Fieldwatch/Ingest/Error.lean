import Fieldwatch.Alert.Command
import Fieldwatch.Event.Envelope
import Fieldwatch.Store.Error

/-!
# Refused use cases

Why a reading is not stored or a command on an alert not carried out. A rejection is the caller's
doing, anything else a failure.
-/
namespace Fieldwatch

inductive IngestError
  | validation (faults : Faults)
  /-- There is no snapshot of the sensor that would do. -/
  | sensorNotFound (id : SensorId)
  | alertNotFound (id : EntityId)
  | alert (error : AlertError)
  | contract (error : EnvelopeError)
  | store (error : StoreError)
  deriving DecidableEq

namespace IngestError

def message : IngestError → String
  | validation faults => "Validation failed: " ++ faults.message
  | sensorNotFound id => "Sensor not found: " ++ id.text
  | alertNotFound id => "Alert not found: " ++ id.text
  | alert error => error.message
  | contract error => "Contract error: " ++ error.message
  | store error => "Store error: " ++ error.message

def isRejection : IngestError → Bool
  | validation _ | sensorNotFound _ | alertNotFound _ | alert _ => true
  | contract _ | store _ => false

/-- The label under which the error is counted and reported. -/
def reason : IngestError → String
  | validation _ => "validation"
  | sensorNotFound _ => "sensor_not_found"
  | alertNotFound _ => "alert_not_found"
  | alert _ => "invalid_transition"
  | contract _ => "contract"
  | store _ => "store"

end IngestError
end Fieldwatch
