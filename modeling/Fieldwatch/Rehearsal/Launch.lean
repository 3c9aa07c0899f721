import Fieldwatch.Rehearsal.Report
import Fieldwatch.Service

/-!
# Launches

Whole runs of the service with a stand-in for what it finds around it: a scripted database behind a
socket in one directory, and a loopback port that is taken.
-/
namespace Fieldwatch.Rehearsal

def busyPort : UInt16 := 49151

/-- The directory of the socket of the database. -/
def peerDirectory : String := "/run/fieldwatch"

/-- A setting with the taken port and the directory put in the place of their names. -/
def placed (text : String) : String :=
  (text.replace "$BUSY" (toString busyPort)).replace "$PEER" peerDirectory

/-- The hosts on which the taken port cannot be listened on. -/
def busyHosts : List String := ["127.0.0.1", "0.0.0.0", "localhost"]

/-- The parameters of a place, which stand after a question mark. -/
def placeParams (url : String) : List (String × String) :=
  match url.splitOn "?" with
  | _ :: query :: _ =>
    (query.splitOn "&").map fun param =>
      match param.splitOn "=" with
      | name :: value => (name, "=".intercalate value)
      | [] => ("", "")
  | _ => []

/-- Whether a database at a place is the scripted one, which speaks in the clear only. -/
def reachesPeer (url : String) : Bool :=
  let params := placeParams url
  let modes := (params.filter fun param => param.1 = "sslmode").map Prod.snd
  let hosts := (params.filter fun param => param.1 = "host").map Prod.snd
  1 < (url.splitOn "://").length && hosts.getLast? = some peerDirectory
    && modes.all fun mode => mode ∈ ["disable", "allow", "prefer"]

def surroundings : Service.Surroundings where
  reaches := reachesPeer
  listenFault? host port :=
    if port = busyPort && busyHosts.contains host then
      some "Address already in use (os error 98)"
    else none

/-- Reads a signal, which is to terminate unless it says otherwise. -/
def signalOf : Option String → Signal
  | some "INT" => .interrupt
  | _ => .terminate

/-- What is shown of a run: the records that were written as JSON, in the order of their texts. -/
def launchView (outcome : Service.Outcome) : Json :=
  let logs := match outcome.format with
    | .json => outcome.records.map Log.Record.text
    | .text => []
  .record [("exit", ofNat outcome.exitCode),
    ("logs", texts (logs.mergeSort fun a b => decide (a ≤ b))),
    ("stderr", texts outcome.complaint?.toList)]

end Fieldwatch.Rehearsal
