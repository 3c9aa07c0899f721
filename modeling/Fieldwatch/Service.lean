import Fieldwatch.Log.Filter
import Fieldwatch.Pipeline.Basic

/-!
# The service

The life of the service: it reads its settings, reaches its store, starts the pipeline, listens,
and stops in good order when it is told to. What it tells of itself are log records; a start that
fails ends it with an error.
-/
namespace Fieldwatch

inductive Signal
  | interrupt
  | terminate
  deriving DecidableEq, Repr

def Signal.name : Signal → String
  | interrupt => "SIGINT"
  | terminate => "SIGTERM"

inductive ServiceError
  | settings (error : SettingsError)
  | database
  /-- Nothing can listen on the address. -/
  | address (reason : String)
  deriving DecidableEq, Repr

def ServiceError.message : ServiceError → String
  | settings error => error.message
  | database => "Failed to connect to database"
  | address reason => "I/O error: " ++ reason

namespace Service

/-- The name under which the service reports errors. -/
def name : String := "sensor-ingest"

structure Surroundings where
  /-- Whether there is a database at a place. -/
  reaches : String → Bool
  /-- Why nothing can listen on a host and port, if that is so. -/
  listenFault? : String → UInt16 → Option String

/-! ## Records -/

/-- A record about the service as a whole. -/
def record (level : Log.Level) (message : String) : Log.Record := ⟨level, "sensor_ingest", message⟩

def pipelineRecord (level : Log.Level) (message : String) : Log.Record :=
  ⟨level, "service::pipeline", message⟩

def relayRecord (message : String) : Log.Record := ⟨.info, "messaging::relay", message⟩

/-- What is told once the pipeline is started. -/
def startRecords : List Log.Record :=
  [⟨.info, "messaging::broker", "handler subscribed"⟩, pipelineRecord .info "pipeline started",
    record .info "starting sensor ingest service"]

def failureRecord : Log.Record := record .error "service failed"

/-- What is told when the service runs and then stops: a relay without a time between its polls
breaks down, which is noticed when it is stopped. -/
def stopRecords (settings : Settings) (signal : Signal) : List Log.Record :=
  let relayEnd :=
    if (Pipeline.planOf settings).period = 0 then
      pipelineRecord .error "outbox relay task panicked"
    else relayRecord "outbox relay stopped"
  [relayRecord "outbox relay started",
    record .info ("received " ++ signal.name ++ ", starting graceful shutdown"), relayEnd,
    pipelineRecord .info "pipeline stopped", record .info "server shut down gracefully"]

/-! ## Start -/

/-- Reaches the store: the database of the settings, or else the one in memory. A database is
reached over at least one connection. -/
def reachStore (surroundings : Surroundings) (settings : Settings) :
    Except ServiceError (List Log.Record) :=
  match settings.databaseUrl with
  | none => .ok [record .warn "DATABASE_URL not set, using the in-memory store"]
  | some url =>
    if surroundings.reaches url && settings.maxConnections ≠ 0 then .ok [] else .error .database

/-- Starts the service with settings: what is told of it, and the error if it failed. -/
def start (surroundings : Surroundings) (settings : Settings) :
    List Log.Record × Option ServiceError :=
  match reachStore surroundings settings with
  | .error error => ([failureRecord], some error)
  | .ok records =>
    match surroundings.listenFault? settings.host settings.port with
    | some reason => (records ++ startRecords ++ [failureRecord], some (.address reason))
    | none => (records ++ startRecords, none)

/-! ## A whole run -/

structure Outcome where
  /-- How records are written. -/
  format : LogFormat
  /-- The records that were written. -/
  records : List Log.Record
  error : Option ServiceError

namespace Outcome

def exitCode (outcome : Outcome) : Nat := if outcome.error.isSome then 1 else 0

def complaint? (outcome : Outcome) : Option String :=
  outcome.error.map fun error => name ++ ": " ++ error.message

end Outcome

/-- The records that the filter of the settings admits. -/
def admitted (settings : Settings) (records : List Log.Record) : List Log.Record :=
  records.filter (Log.Filter.ofText settings.logDirectives).admits

/-- A run from its settings to the signal that stops it. Nothing is told before the settings are
read. -/
def run (surroundings : Surroundings) (environment : Settings.Environment) (signal : Signal) :
    Outcome :=
  match Settings.ofEnvironment environment with
  | .error error => ⟨.text, [], some (.settings error)⟩
  | .ok settings =>
    let (records, error) := start surroundings settings
    let all := if error.isSome then records else records ++ stopRecords settings signal
    ⟨settings.logFormat, admitted settings all, error⟩

end Service
end Fieldwatch
