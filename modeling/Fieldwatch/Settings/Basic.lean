import Fieldwatch.Inbox.Policy
import Fieldwatch.Settings.Number
import Fieldwatch.Text.Blank
import Fieldwatch.Text.Quoted

/-!
# Settings

What the service is run with, read from named texts such as those of the environment. A name that
is absent or blank has its usual value. The names are read in a fixed order, and the first bad
value is the error.
-/
namespace Fieldwatch

inductive LogFormat
  | text
  | json
  deriving DecidableEq, Repr

namespace LogFormat

/-- ASCII letters in lower case, all else unchanged. -/
def lowered (text : String) : String :=
  String.ofList (text.toList.map Char.toLower)

/-- Reads the name of a format, the case of ASCII letters ignored; else the name in lower case. -/
def ofText (text : String) : Except String LogFormat :=
  if lowered text = "text" then .ok .text
  else if lowered text = "json" then .ok .json
  else .error (lowered text)

/-- The wording of a name that is no format. -/
def unknownMessage (name : String) : String :=
  "expected text or json, got " ++ name

end LogFormat

inductive SettingFault
  | number (fault : Settings.NumberFault)
  | logFormat (name : String)
  | above (greatest : Nat)
  deriving DecidableEq, Repr

/-- The wording of what is wrong with a value. -/
def SettingFault.message : SettingFault → String
  | number fault => fault.message
  | logFormat name => LogFormat.unknownMessage name
  | above greatest => "must be at most " ++ toString greatest

structure SettingsError where
  name : String
  value : String
  fault : SettingFault
  deriving DecidableEq, Repr

def SettingsError.message (error : SettingsError) : String :=
  "Configuration error: " ++ error.name ++ " has invalid value " ++ Text.quote error.value ++ ": "
    ++ error.fault.message

structure Settings where
  host : String := "0.0.0.0"
  port : UInt16 := 3000
  /-- Which log records are written. -/
  logDirectives : String := "info"
  logFormat : LogFormat := .text
  /-- The database; without one the store is in memory. -/
  databaseUrl : Option String := none
  maxConnections : UInt32 := 10
  toleranceSeconds : UInt64 := StalenessPolicy.defaultSeconds
  /-- The time between two passes over the outbox. -/
  pollMillis : UInt64 := 1000
  /-- The most entries that one pass publishes. -/
  batchSize : UInt64 := 100
  /-- How long published entries are kept. -/
  retentionSeconds : UInt64 := 3600
  maxDeliveryAttempts : UInt32 := 5
  retryBackoffMillis : UInt64 := 200
  deriving DecidableEq, Repr

namespace Settings

abbrev Environment := String → Option String

/-- The text under a name, unless it is blank. -/
def given (environment : Environment) (name : String) : Option String :=
  (environment name).filter fun text => !Text.isBlankText text

/-- The value under a name, blanks at its ends dropped. -/
def value? {α : Type} (read : String → Except SettingFault α) (environment : Environment)
    (name : String) : Except SettingsError (Option α) :=
  match given environment name with
  | none => .ok none
  | some text =>
    match read (Text.trim text) with
    | .ok value => .ok (some value)
    | .error fault => .error ⟨name, text, fault⟩

/-- The number under a name, below a limit. -/
def number? (limit : Nat) (environment : Environment) (name : String) :
    Except SettingsError (Option Nat) :=
  value? (fun text => (number limit text).mapError .number) environment name

/-- The tolerance, which has a greatest value of its own. -/
def tolerance? (environment : Environment) : Except SettingsError (Option Nat) := do
  let name := "INBOX_STALENESS_TOLERANCE_SECS"
  match ← number? UInt64.size environment name with
  | some count =>
    if StalenessPolicy.maxSeconds < count then
      .error ⟨name, toString count, .above StalenessPolicy.maxSeconds⟩
    else return some count
  | none => return none

def ofEnvironment (environment : Environment) : Except SettingsError Settings := do
  let usual : Settings := {}
  let port ← number? UInt16.size environment "PORT"
  let logFormat ← value? (fun text => (LogFormat.ofText text).mapError .logFormat) environment
    "LOG_FORMAT"
  let maxConnections ← number? UInt32.size environment "DATABASE_MAX_CONNECTIONS"
  let toleranceSeconds ← tolerance? environment
  let pollMillis ← number? UInt64.size environment "OUTBOX_POLL_INTERVAL_MS"
  let batchSize ← number? UInt64.size environment "OUTBOX_BATCH_SIZE"
  let retentionSeconds ← number? UInt64.size environment "OUTBOX_RETENTION_SECS"
  let maxDeliveryAttempts ← number? UInt32.size environment "BROKER_MAX_DELIVERY_ATTEMPTS"
  let retryBackoffMillis ← number? UInt64.size environment "BROKER_RETRY_BACKOFF_MS"
  return {
    host := (given environment "HOST").getD usual.host
    port := (port.map UInt16.ofNat).getD usual.port
    logDirectives := (given environment "RUST_LOG").getD usual.logDirectives
    logFormat := logFormat.getD usual.logFormat
    databaseUrl := given environment "DATABASE_URL"
    maxConnections := (maxConnections.map UInt32.ofNat).getD usual.maxConnections
    toleranceSeconds := (toleranceSeconds.map UInt64.ofNat).getD usual.toleranceSeconds
    pollMillis := (pollMillis.map UInt64.ofNat).getD usual.pollMillis
    batchSize := (batchSize.map UInt64.ofNat).getD usual.batchSize
    retentionSeconds := (retentionSeconds.map UInt64.ofNat).getD usual.retentionSeconds
    maxDeliveryAttempts := (maxDeliveryAttempts.map UInt32.ofNat).getD usual.maxDeliveryAttempts
    retryBackoffMillis := (retryBackoffMillis.map UInt64.ofNat).getD usual.retryBackoffMillis }

def address (settings : Settings) : String :=
  settings.host ++ ":" ++ toString settings.port

end Settings
end Fieldwatch
