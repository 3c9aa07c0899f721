import Fieldwatch.Endpoint
import Fieldwatch.Json.Text
import Fieldwatch.Service
import Fieldwatch.Store.Tables

/-!
# The program

Runs the service over the store in memory with the settings of the environment. Requests for the
operational endpoints are lines of standard input such as `GET /health`; each is answered with the
status and the content, and the end of input stops the service.
-/
namespace Fieldwatch.Program

/-- A pipeline over the store in memory, whose only subscriber is the inbox. -/
abbrev Running := Pipeline Unit (World Tables)

def receive (policy : StalenessPolicy) : Broker.Handler Unit (World Tables) := fun parcel world =>
  let (result, world) := Inbox.process policy parcel.envelope parcel.attempt world
  ((result.map fun _ => ()).mapError InboxError.message, world)

/-- What the program finds around it: no database, and an address of its own. -/
def surroundings : Service.Surroundings where
  reaches _ := false
  listenFault? _ _ := none

def line (format : LogFormat) (record : Log.Record) : String :=
  match format with
  | .text => record.text
  | .json =>
    (Json.record [("level", .str record.level.name), ("target", .str record.target),
      ("fields", .record [("message", .str record.message)])]).text

def respond (counters : Counters) (request : String) : List String :=
  let (method, path) := match request.splitOn " " with
    | method :: path :: _ => (method, path)
    | _ => (request, "")
  let response := Endpoint.respond method path StoreKind.memory.name counters
  toString response.status :: match response.body with
    | .empty => []
    | .json value => [value.text]
    | .lines samples => samples

/-- The names under which settings are given. -/
def settingNames : List String :=
  ["HOST", "PORT", "RUST_LOG", "LOG_FORMAT", "DATABASE_URL", "DATABASE_MAX_CONNECTIONS",
    "INBOX_STALENESS_TOLERANCE_SECS", "OUTBOX_POLL_INTERVAL_MS", "OUTBOX_BATCH_SIZE",
    "OUTBOX_RETENTION_SECS", "BROKER_MAX_DELIVERY_ATTEMPTS", "BROKER_RETRY_BACKOFF_MS"]

def readEnvironment : IO Settings.Environment := do
  let given ← settingNames.mapM fun name => do return (name, ← IO.getEnv name)
  return fun name => (given.find? fun entry => entry.1 = name).bind Prod.snd

def tell (settings : Settings) (records : List Log.Record) : IO Unit :=
  for record in Service.admitted settings records do
    IO.println (line settings.logFormat record)

/-- Answers requests until the end of input, while the pipeline runs beside. -/
partial def serve (policy : StalenessPolicy) (since : Nat) (running : Running) : IO Running := do
  let request ← (← IO.getStdin).getLine
  let time ← IO.monoMsNow
  let ((), running) := Pipeline.wait (receive policy) (time - since) running
  if request.isEmpty then return running
  for answer in respond running.shared.counters (Text.trim request) do
    IO.println answer
  (← IO.getStdout).flush
  serve policy time running

/-- Reports an error and ends the program. -/
def fail (error : ServiceError) : IO UInt32 := do
  IO.eprintln (Service.name ++ ": " ++ error.message)
  return 1

def run : IO UInt32 := do
  match Settings.ofEnvironment (← readEnvironment) with
  | .error error => fail (.settings error)
  | .ok settings =>
    let (records, error) := Service.start surroundings settings
    tell settings records
    match error with
    | some error => fail error
    | none =>
      let policy := StalenessPolicy.ofSeconds settings.toleranceSeconds
      let ids : IdSource := ⟨fun place => BitVec.ofNat 128 (place + 1), 0⟩
      let world : World Tables := ⟨.still .epoch, ids, .empty, {}⟩
      let running ← serve policy (← IO.monoMsNow) (Pipeline.start world settings ())
      let _ := running.shutdown (receive policy)
      tell settings (Service.stopRecords settings .terminate)
      return 0

end Fieldwatch.Program

def main : IO UInt32 := Fieldwatch.Program.run
