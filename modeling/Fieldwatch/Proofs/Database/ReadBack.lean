import Fieldwatch.Database.Table
import Fieldwatch.Proofs.Database.Written
import Fieldwatch.Proofs.Event.Envelope

/-!
# What is written is read back

The row that a statement writes is read back as the value that the statement was made of: each
column is bound to the value that is looked for in it, whatever the order of the columns and of the
placeholders.
-/
namespace Fieldwatch.Database

/-! ## Rows that hold what was given -/

/-- Whether a row has the values that were given. -/
def Row.Holds (row given : Row) : Prop :=
  ∀ name value, given.value? name = some value → row.value? name = some value

theorem Row.Holds.get {row given : Row} {α : Type} [Column α] {name : String} {value : α}
    (holds : row.Holds given) (column : given.value? name = some (toValue value)) :
    row.get name = .ok value := by
  rw [Row.get, holds name _ column, Option.bind_some, Column.ofValue?_toValue]

theorem Row.Holds.getNamed {row given : Row} {α : Type} {read : String → Except UnknownName α}
    {name text : String} {value : α} (holds : row.Holds given) (named : read text = .ok value)
    (column : given.value? name = some (toValue text)) : row.getNamed read name = .ok value := by
  rw [Row.getNamed, holds.get column]
  change (read text).mapError _ = _
  rw [named]
  rfl

theorem Row.holds_refl (row : Row) : row.Holds row := fun _ _ found => found

theorem value?_append (row later : Row) (name : String) :
    Row.value? (row ++ later) name = (row.value? name).or (later.value? name) := by
  rw [Row.value?, List.find?_append, Row.value?, Row.value?, Option.map_or]

/-- Columns in front hide those behind, but no other. -/
theorem Row.Holds.append {row given : Row} (holds : row.Holds given) (later : Row) :
    Row.Holds (row ++ later) given := by
  intro name value found
  rw [value?_append, holds name value found, Option.some_or]

theorem holds_rotated {name : String} {value : Value} {row : Row}
    (apart : name ∉ row.map Prod.fst) :
    Row.Holds (row ++ [(name, value)]) ((name, value) :: row) := by
  intro other held found
  rw [value?_append]
  by_cases same : name = other
  · have nothing : Row.value? row other = none := by
      rw [Row.value?, Option.map_eq_none_iff, List.find?_eq_none]
      intro column member here
      exact apart (same ▸ of_decide_eq_true here ▸ List.mem_map_of_mem member)
    rw [nothing, Option.none_or]
    simpa [Row.value?, same] using found
  · have later : Row.value? row other = some held := by simpa [Row.value?, same] using found
    rw [later, Option.some_or]

theorem Row.mem_of_value? {row : Row} {name : String} {value : Value}
    (found : row.value? name = some value) : name ∈ row.map Prod.fst := by
  obtain ⟨column, first, -⟩ := Option.map_eq_some_iff.mp found
  have named : column.1 = name := by simpa using List.find?_some first
  exact named ▸ List.mem_map_of_mem (List.mem_of_find?_eq_some first)

theorem TableShape.value?_fill {shape : TableShape} (row : Row) {name : String}
    (column : name ∈ shape.columns.map Prod.fst) :
    (shape.fill row).value? name = some ((row.value? name).getD .null) := by
  obtain ⟨column, member, named⟩ := List.mem_map.mp column
  have found : (shape.columns.find? fun column => column.1 = name).isSome :=
    List.find?_isSome.mpr ⟨column, member, by simpa using named⟩
  obtain ⟨first, found⟩ := Option.isSome_iff_exists.mp found
  have same : first.1 = name := by simpa using List.find?_some found
  rw [Row.value?, fill, List.find?_map]
  change ((shape.columns.find? fun column => column.1 = name).map _).map _ = _
  rw [found, Option.map_some, Option.map_some, same]

/-- A table holds what was given, if it has the columns for it. -/
theorem TableShape.holds_fill {shape : TableShape} {row given : Row} (holds : row.Holds given)
    (columns : ∀ name ∈ given.map Prod.fst, name ∈ shape.columns.map Prod.fst) :
    (shape.fill row).Holds given := by
  intro name value found
  rw [value?_fill row (columns name (Row.mem_of_value? found)), holds name value found]
  rfl

/-- A column of a table that was not given is null. -/
theorem TableShape.holds_fill_null {shape : TableShape} {row : Row} {name : String}
    (column : name ∈ shape.columns.map Prod.fst) (missing : row.value? name = none) :
    (shape.fill row).Holds [(name, .null)] := by
  intro other value found
  obtain rfl : other = name := by simpa using Row.mem_of_value? found
  rw [value?_fill row column, missing]
  simpa [Row.value?] using found

/-! ## Reading rows back -/

theorem get_bind {row given : Row} {α β : Type} [Column α] {name : String} {value : α}
    {next : α → Except StoreError β} {result : Except StoreError β} (holds : row.Holds given)
    (column : given.value? name = some (toValue value)) (later : next value = result) :
    (row.get name >>= next) = result := by
  rw [holds.get column]
  exact later

theorem getNamed_bind {row given : Row} {α β : Type} {read : String → Except UnknownName α}
    {name text : String} {value : α} {next : α → Except StoreError β}
    {result : Except StoreError β} (holds : row.Holds given) (named : read text = .ok value)
    (column : given.value? name = some (toValue text)) (later : next value = result) :
    (row.getNamed read name >>= next) = result := by
  rw [holds.getNamed named column]
  exact later

theorem ok_bind {α β : Type} {read : Except StoreError α} {value : α}
    {next : α → Except StoreError β} {result : Except StoreError β} (found : read = .ok value)
    (later : next value = result) : (read >>= next) = result := by
  rw [found]
  exact later

theorem ofText_kind (kind : AlertKind) : AlertKind.ofText kind.name = .ok kind := by
  cases kind <;> rfl

theorem ofText_severity (severity : Severity) : Severity.ofText severity.name = .ok severity := by
  cases severity <;> rfl

theorem ofText_alertStatus (status : AlertStatus) :
    AlertStatus.ofText status.name = .ok status := by
  cases status <;> rfl

theorem ofText_sensorStatus (status : SensorStatus) :
    SensorStatus.ofText status.name = .ok status := by
  cases status <;> rfl

theorem outboxStatus_name (status : OutboxStatus) : outboxStatus status.name = .ok status := by
  cases status <;> rfl

section
variable {row : Row}

theorem ofRow_reading {reading : ReadingRecord} (holds : row.Holds (Table.toRow reading)) :
    Table.ofRow row = .ok reading :=
  get_bind holds rfl <| get_bind holds rfl <| get_bind holds rfl <| get_bind holds rfl <|
    get_bind holds rfl <| get_bind holds rfl <| get_bind holds rfl <| get_bind holds rfl <|
    get_bind holds rfl rfl

theorem ofRow_sensor {sensor : SensorSnapshot} (holds : row.Holds (Table.toRow sensor)) :
    Table.ofRow row = .ok sensor :=
  get_bind holds rfl <| get_bind holds rfl <| get_bind holds rfl <| get_bind holds rfl <|
    get_bind holds rfl <| get_bind holds rfl <| get_bind holds rfl <|
    getNamed_bind holds (ofText_sensorStatus _) rfl <| get_bind holds rfl <|
    get_bind holds rfl <| get_bind holds rfl <| get_bind holds rfl <| get_bind holds rfl rfl

theorem ofRow_owner {owner : OwnerSnapshot} (holds : row.Holds (Table.toRow owner)) :
    Table.ofRow row = .ok owner :=
  get_bind holds rfl <| get_bind holds rfl <| get_bind holds rfl <| get_bind holds rfl <|
    get_bind holds rfl <| get_bind holds rfl <| get_bind holds rfl <| get_bind holds rfl rfl

/-- A version fits its column. -/
theorem ofRow_alert {record : AlertRecord} {version : Int64}
    (holds : row.Holds (Table.toRow (⟨record, version.toInt⟩ : StoredAlert))) :
    Table.ofRow row = .ok (⟨record, version.toInt⟩ : StoredAlert) := by
  have same : (toValue (Int64.ofInt version.toInt) : Value) = toValue version := by
    rw [Int64.ofInt_toInt]
  exact get_bind holds rfl <| get_bind holds rfl <| getNamed_bind holds (ofText_kind _) rfl <|
    getNamed_bind holds (ofText_severity _) rfl <| get_bind holds rfl <| get_bind holds rfl <|
    get_bind holds rfl <| getNamed_bind holds (ofText_alertStatus _) rfl <| get_bind holds rfl <|
    get_bind holds rfl <| get_bind holds rfl <| get_bind holds rfl <| get_bind holds rfl <|
    get_bind holds rfl <| get_bind holds (congrArg some same) rfl

/-- What a new entry does not hold is null. -/
theorem ofRow_entry {id : EntryId} {envelope : Envelope} {now : Instant}
    (holds : row.Holds (Table.toRow (OutboxEntry.new id envelope now)))
    (unprocessed : row.Holds [("processed_at", toValue (none : Option Instant))])
    (unrefused : row.Holds [("last_error", toValue (none : Option String))]) :
    Table.ofRow row = .ok (OutboxEntry.new id envelope now) := by
  have read : envelopeOf (Json.encode envelope) = .ok envelope := by
    rw [envelopeOf, Json.decode, Json.decode_encode]
    rfl
  exact get_bind holds rfl <| get_bind holds rfl <| get_bind holds rfl <| get_bind holds rfl <|
    ok_bind read <| ok_bind (outboxStatus_name .pending) <| get_bind holds rfl <|
    get_bind unprocessed rfl <| get_bind unrefused rfl rfl

end

/-! ## Statements -/

/-- Whether a type is written to the columns of its table that it is read from, of which the first
is its identifier, and whose names can be told from the other words of a statement. -/
structure LaidOut (α : Type) [Table α] (shape : TableShape) : Prop where
  known : Schema.shape? (Table.name α) = some shape
  word : IsWord (Table.name α)
  columns : ∀ name ∈ Table.columns α,
    IsWord name ∧ name ≠ "VALUES" ∧ name ∈ shape.columns.map Prod.fst
  distinct : (Table.columns α).Nodup
  written : ∀ value : α, ∃ id rest, Table.toRow value = ("id", id) :: rest ∧
    "id" :: rest.map Prod.fst = Table.columns α

theorem laidOut_reading : LaidOut ReadingRecord Schema.readings :=
  ⟨rfl, by decide, by decide, by decide, fun _ => ⟨_, _, rfl, rfl⟩⟩

theorem laidOut_alert : LaidOut StoredAlert Schema.alerts :=
  ⟨rfl, by decide, by decide, by decide, fun _ => ⟨_, _, rfl, rfl⟩⟩

theorem laidOut_sensor : LaidOut SensorSnapshot Schema.sensors :=
  ⟨rfl, by decide, by decide, by decide, fun _ => ⟨_, _, rfl, rfl⟩⟩

theorem laidOut_owner : LaidOut OwnerSnapshot Schema.owners :=
  ⟨rfl, by decide, by decide, by decide, fun _ => ⟨_, _, rfl, rfl⟩⟩

/-- Whether the row that a statement writes is read back as a value. -/
def Keeps {α : Type} [Table α] (statement : Statement) (value : α) : Prop :=
  ∃ row, statement.row? = some row ∧ Table.ofRow row = .ok value

section
variable {α : Type} [Table α] {value : α} {shape : TableShape}

theorem LaidOut.keeps_insert (laidOut : LaidOut α shape)
    (reads : ∀ {row : Row}, row.Holds (Table.toRow value) → Table.ofRow row = .ok value) :
    Keeps (insert value) value := by
  obtain ⟨known, word, columns, distinct, written⟩ := laidOut
  obtain ⟨id, rest, given, named⟩ := written value
  have names : (Table.toRow value).map Prod.fst = Table.columns α := by rw [given]; exact named
  refine ⟨_, Statement.row?_insert known word (by decide) ?_,
    reads (TableShape.holds_fill (Row.holds_refl _) ?_)⟩
  · rw [names]
    exact fun name member => ⟨(columns name member).1, (columns name member).2.1⟩
  · rw [names]
    exact fun name member => (columns name member).2.2

theorem LaidOut.keeps_update (laidOut : LaidOut α shape)
    (reads : ∀ {row : Row}, row.Holds (Table.toRow value) → Table.ofRow row = .ok value) :
    Keeps (update value) value := by
  obtain ⟨known, word, columns, distinct, written⟩ := laidOut
  obtain ⟨id, rest, given, named⟩ := written value
  rw [← named] at columns distinct
  rw [update, given]
  rw [given] at reads
  refine ⟨_, Statement.row?_update known word ?_,
    reads (TableShape.holds_fill (holds_rotated (List.nodup_cons.mp distinct).1) ?_)⟩
  · exact fun name member => (columns name (List.mem_cons_of_mem _ member)).1
  · exact fun name member => (columns name member).2.2

/-- A condition on the row that is overwritten does not change what it is overwritten with. -/
theorem LaidOut.keeps_whenEqual (laidOut : LaidOut α shape) {column : String} (held : Value)
    (columnWord : IsWord column) (noSign : column ≠ "=")
    (reads : ∀ {row : Row}, row.Holds (Table.toRow value) → Table.ofRow row = .ok value) :
    Keeps ((update value).whenEqual column held) value := by
  obtain ⟨known, word, columns, distinct, written⟩ := laidOut
  obtain ⟨id, rest, given, named⟩ := written value
  rw [← named] at columns distinct
  rw [update, given]
  rw [given] at reads
  refine ⟨_, Statement.row?_whenEqual known word ?_ columnWord noSign,
    reads (TableShape.holds_fill ((holds_rotated (List.nodup_cons.mp distinct).1).append _) ?_)⟩
  · exact fun name member => (columns name (List.mem_cons_of_mem _ member)).1
  · exact fun name member => (columns name member).2.2

end

theorem keeps_saveAlert (record : AlertRecord) (expected next : Int64) :
    Keeps (saveAlert ⟨record, expected.toInt, next.toInt⟩)
      (⟨record, next.toInt⟩ : StoredAlert) := by
  unfold saveAlert
  by_cases first : expected.toInt = 0
  · rw [if_pos first]
    exact laidOut_alert.keeps_insert ofRow_alert
  · rw [if_neg first]
    exact laidOut_alert.keeps_whenEqual _ (by decide) (by decide) ofRow_alert

/-- The row of an entry that is added is the one that it was given. -/
theorem row?_insertEntry (entry : OutboxEntry) :
    (insertEntry entry).row? = some (Schema.outbox.fill (Table.toRow entry)) := by
  have columns : ∀ column ∈ ["id", "event_id", "event_type", "envelope", "status", "created_at",
      "attempts"], IsWord column ∧ column ≠ "VALUES" := by decide
  have known : Schema.shape? (Table.name OutboxEntry) = some Schema.outbox := rfl
  exact Statement.row?_insert known (by decide) (by decide) columns

theorem keeps_insertEntry (id : EntryId) (envelope : Envelope) (now : Instant) :
    Keeps (insertEntry (.new id envelope now)) (OutboxEntry.new id envelope now) := by
  have columns : ∀ column ∈ ["id", "event_id", "event_type", "envelope", "status", "created_at",
      "attempts"], column ∈ Schema.outbox.columns.map Prod.fst := by decide
  refine ⟨_, row?_insertEntry _, ofRow_entry ?_ ?_ ?_⟩
  · exact TableShape.holds_fill (Row.holds_refl _) columns
  · exact TableShape.holds_fill_null (by decide) rfl
  · exact TableShape.holds_fill_null (by decide) rfl

/-- Whatever is stored is read back: a reading, an alert with the version it is saved at, a
snapshot and a new outbox entry, by each of the statements that store it. -/
theorem stored_rows_read_back :
    (∀ reading : ReadingRecord, Keeps (insert reading) reading) ∧
      (∀ (record : AlertRecord) (expected next : Int64),
        Keeps (saveAlert ⟨record, expected.toInt, next.toInt⟩)
          (⟨record, next.toInt⟩ : StoredAlert)) ∧
      (∀ sensor : SensorSnapshot, Keeps (writeSnapshot (.add sensor)) sensor ∧
        Keeps (writeSnapshot (.update sensor)) sensor) ∧
      (∀ owner : OwnerSnapshot, Keeps (writeSnapshot (.add owner)) owner ∧
        Keeps (writeSnapshot (.update owner)) owner) ∧
      ∀ (id : EntryId) (envelope : Envelope) (now : Instant),
        Keeps (insertEntry (.new id envelope now)) (OutboxEntry.new id envelope now) := by
  refine ⟨fun reading => ?_, keeps_saveAlert, fun sensor => ⟨?_, ?_⟩, fun owner => ⟨?_, ?_⟩,
    keeps_insertEntry⟩
  · exact laidOut_reading.keeps_insert ofRow_reading
  · exact laidOut_sensor.keeps_insert ofRow_sensor
  · exact laidOut_sensor.keeps_update ofRow_sensor
  · exact laidOut_owner.keeps_insert ofRow_owner
  · exact laidOut_owner.keeps_update ofRow_owner

end Fieldwatch.Database
