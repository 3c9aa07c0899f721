import Fieldwatch.Database.Connection
import Fieldwatch.Json.Text
import Fieldwatch.Rehearsal.Request

/-!
# A scripted database

A stand-in for a database that answers each statement as it was told to and notes what it was
sent. It knows moments to the microsecond only, and cuts them toward the start of the year 2000; it
knows no leap seconds. JSON values reach it, and come from it, as text.
-/
namespace Fieldwatch.Rehearsal

open Database

inductive Sent
  | start
  | commit
  | rollback
  | statement (statement : Statement)

inductive Scripted
  | refusal
  | reply (reply : Reply)

structure Peer where
  /-- The answers to the next statements. -/
  script : List Scripted := []
  /-- Whether no transaction can be opened. -/
  refusesStart : Bool := false
  /-- Whether no transaction can be made lasting. -/
  refusesCommit : Bool := false
  /-- Whether it is out of reach. -/
  closed : Bool := false
  /-- What it was sent, in order. -/
  received : List Sent := []
  /-- The scripts that created tables. -/
  installed : List (List TableShape) := []

/-! ## Precision -/

/-- The start of the year 2000, in nanoseconds. -/
def preciseEpoch : Int := 946684800000000000

/-- A moment cut to the microsecond, toward the start of the year 2000; a leap second becomes the
second after it. -/
def cutTime (moment : Instant) : Instant :=
  (Instant.ofNanos? (preciseEpoch + Int.tdiv (moment.nanos - preciseEpoch) 1000 * 1000)).getD moment

def cutValue : Value → Value
  | .time moment => .time (cutTime moment)
  | .json value => .json value.reread
  | value => value

namespace Peer

/-- The peer after it was sent something. -/
def receive (peer : Peer) (sent : Sent) : Peer := { peer with received := peer.received ++ [sent] }

/-- The answer to a statement that the script does not speak of: one row is written, but none
deleted. -/
def usualReply (statement : Statement) : Reply :=
  { affected := if statement.text.startsWith "DELETE" then 0 else 1 }

/-- Answers a command, which may be refused. -/
def command (sent : Sent) (refuses : Peer → Bool) : Access Peer Unit := fun peer =>
  if peer.closed then (.error .database, peer)
  else if refuses peer then (.error .database, peer.receive sent)
  else (.ok (), peer.receive sent)

def answer (statement : Statement) : Access Peer Reply := fun peer =>
  if peer.closed then (.error .database, peer)
  else
    let params := statement.params.map cutValue
    let peer := peer.receive (.statement { statement with params })
    match peer.script with
    | [] => (.ok (usualReply statement), peer)
    | .refusal :: script => (.error .database, { peer with script })
    | .reply reply :: script => (.ok reply, { peer with script })

/-- The words for a peer that is out of reach. -/
def unreachable : String :=
  "while executing migrations: attempted to acquire a connection on a closed pool"

instance : Connection Peer where
  install scripts := fun peer =>
    if peer.closed then (.error (.migration unreachable), peer)
    else (.ok (), { peer with installed := peer.installed ++ scripts })
  start := command .start refusesStart
  commit := command .commit refusesCommit
  rollback := fun peer => ((), peer.receive .rollback)
  send := answer

end Peer

/-! ## Scripts -/

def valueOf : ColumnType → Json → Answer Value
  | _, .null => .ok .null
  | .int4, .int value => .ok (.int4 (Int32.ofInt value))
  | .int4, _ => .ok (.int4 0)
  | .int8, .int value => .ok (.int8 (Int64.ofInt value))
  | .bool, .bool value => .ok (.bool value)
  | .json, value => .ok (.json value.reread)
  | .text, .str text => .ok (.text text)
  | .uuid, value => do
    let id ← need EntityId (.record [("id", value)]) "id"
    return .uuid id.value
  | .time, value => do return .time (cutTime (← need Instant (.record [("time", value)]) "time"))
  | .double, value => do
    return .double ((← mayFloat (.record [("number", value)]) "number").getD Double.nan)
  | _, _ => badInput "rows"

/-- The type of a column in a reply, which may say it is an integer whatever its name. -/
def columnTypeIn (reply : Json) (name : String) : ColumnType :=
  match field (field reply "types") name with
  | .str "int4" => .int4
  | _ => Schema.columnType name

/-- Reads the rows of a reply; their columns are those of the first. -/
def rowsOf (reply : Json) : Answer (List Row) := do
  let rows := itemsOf reply "rows"
  let names := match rows with
    | .obj entries :: _ => entries.map Prod.fst
    | _ => []
  rows.mapM fun row => names.mapM fun name => do
    return (name, ← valueOf (columnTypeIn reply name) (field row name))

def scriptedOf (reply : Json) : Answer Scripted := do
  match field reply "error" with
  | .null => return .reply ⟨← rowsOf reply, (← mayNat reply "affected").getD 1⟩
  | _ => return .refusal

def Peer.prepare (peer : Peer) (step : Json) : Answer Peer := do
  let refused ← may String step "fail_tx"
  return {
    script := ← (itemsOf step "replies").mapM scriptedOf
    refusesStart := refused = some "BEGIN"
    refusesCommit := refused = some "COMMIT"
    closed := peer.closed }

/-! ## Views -/

def paramView : Value → Json
  | .null => .null
  | .uuid value => Json.encode (Id.mk value : EntityId)
  | .uuids values => .arr (values.map fun value => Json.encode (Id.mk value : EntityId))
  | .text value => .str value
  | .double value =>
    if value.isFinite then .float value
    else if value.isNaN then .str "NaN"
    else if value.lt (Double.ofInt 0) then .str "-inf" else .str "inf"
  | .bool value => .bool value
  | .int4 value => .int value.toInt
  | .int8 value => .int value.toInt
  | .time moment => Json.encode moment
  | .json value => value

/-- What is shown of something that was sent. -/
def sentView : Sent → Json
  | .start => .str "BEGIN"
  | .commit => .str "COMMIT"
  | .rollback => .str "ROLLBACK"
  | .statement statement =>
    .record [("sql", .str statement.text), ("params", .arr (statement.params.map paramView))]

/-- What a step shows of the peer: what was sent and how many answers are left, or the scripts
that created the table of readings. -/
def Peer.entries (peer : Peer) (step : Json) : List (String × Json) :=
  match field step "do" with
  | .str "migrate" =>
    [("tables", ofNat (peer.installed.countP (creates Schema.readings.name)))]
  | _ => [("sql", .arr (peer.received.map sentView)), ("unused", ofNat peer.script.length)]

end Fieldwatch.Rehearsal
