/-!
# The schema

Which tables there are and of what type each of their columns is, by the scripts that create them.
A column has the same type in every table that has one of its name.
-/
namespace Fieldwatch.Database

inductive ColumnType
  | uuid
  | text
  | double
  | bool
  | int4
  | int8
  | time
  | json
  deriving DecidableEq, Repr

/-- The columns of a table that are written or read. -/
structure TableShape where
  name : String
  columns : List (String × ColumnType)
  deriving DecidableEq, Repr

/-- Whether the script of some tables has a table of a name. -/
def creates (name : String) (script : List TableShape) : Bool :=
  script.any fun table => table.name = name

namespace Schema

def readings : TableShape where
  name := "sensor_readings"
  columns := [("id", .uuid), ("sensor_id", .uuid), ("time", .time), ("temperature", .double),
    ("humidity", .double), ("soil_moisture", .double), ("rainfall", .double),
    ("battery_level", .double), ("recorded_at", .time)]

def alerts : TableShape where
  name := "alerts"
  columns := [("id", .uuid), ("sensor_id", .uuid), ("kind", .text), ("severity", .text),
    ("message", .text), ("value", .double), ("threshold", .double), ("status", .text),
    ("raised_at", .time), ("acknowledged_at", .time), ("acknowledged_by", .uuid),
    ("resolved_at", .time), ("resolved_by", .uuid), ("resolution_notes", .text),
    ("version", .int8)]

def sensors : TableShape where
  name := "sensor_snapshots"
  columns := [("id", .uuid), ("owner_id", .uuid), ("property_id", .uuid), ("plot_id", .uuid),
    ("label", .text), ("plot_name", .text), ("property_name", .text), ("status", .text),
    ("status_reason", .text), ("last_status_change_at", .time), ("is_active", .bool),
    ("created_at", .time), ("updated_at", .time)]

def owners : TableShape where
  name := "owner_snapshots"
  columns := [("id", .uuid), ("name", .text), ("email", .text), ("role", .text),
    ("is_active", .bool), ("created_at", .time), ("updated_at", .time),
    ("last_changed_at", .time)]

def outbox : TableShape where
  name := "outbox"
  columns := [("id", .uuid), ("event_id", .uuid), ("event_type", .text), ("envelope", .json),
    ("status", .text), ("created_at", .time), ("processed_at", .time), ("attempts", .int4),
    ("last_error", .text)]

/-- The scripts in order, each with the tables that it creates. -/
def scripts : List (List TableShape) := [[readings, alerts, sensors, owners, outbox]]

/-- The type of a column by its name; text if no table has it. -/
def columnType (name : String) : ColumnType :=
  let columns := scripts.flatten.flatMap TableShape.columns
  ((columns.find? fun column => column.1 = name).map Prod.snd).getD .text

end Schema
end Fieldwatch.Database
