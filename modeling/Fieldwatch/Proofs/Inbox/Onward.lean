import Fieldwatch.Proofs.Frame
import Fieldwatch.Proofs.Sensor.Standing

/-!
# Snapshots move onward

Deliveries may come late and in any order, the clock may be set back, and commits may fail: what a
snapshot shows is still never replaced by something older. The times of last change only grow, news
from before them leave alone what they are about, only the news that a sensor is active wake one
that is not, and nothing wakes an owner.
-/
namespace Fieldwatch.Inbox

open Tables (find?)

variable {policy : StalenessPolicy} {message : Message} {tables middle after : Tables}

/-! ## One delivery -/

/-- A stored row is as it was after an event on a rule, unless the rule is about it: then it may
have been changed, when it did not outdate the event. -/
theorem Rule.Effect.row {σ : Type} {kind : IdKind} [Snapshot σ kind] [Shelf σ]
    {rule : Rule σ kind} {context : MessageContext} {now : Instant}
    {result : Except InboxError Outcome} (effect : rule.Effect context tables now result after)
    (unswitched : (Shelf.rows { tables with failNextCommit := false } : List σ) = Shelf.rows tables)
    {id : Id kind} {row : σ} (found : find? (Shelf.rows tables) id = some row) :
    find? (Shelf.rows after) id = some row ∨
      rule.id = id ∧ rule.outdates row = false ∧
        find? (Shelf.rows after) id = some (rule.change row now) := by
  cases effect with
  | passed _ => exact .inl found
  | refused _ _ => exact .inl (unswitched ▸ found)
  | wrote something _ owns next _ =>
    rw [Shelf.rows_withRows, Tables.find?_placed, owns]
    split
    · next here =>
      have stored : rule.stored? tables = some row := by rw [Rule.stored?, here, found]
      rw [stored] at something next
      rcases rule.next_cases row now with ⟨shown, -, -⟩ | ⟨outdated, -, -⟩ | ⟨current, -, changed⟩
      · simp [Rule.staged?, shown] at something
      · simp [Rule.staged?, outdated] at something
      · exact .inr ⟨here, current, next.symm.trans changed⟩
    · exact .inl found

/-- What a message makes of the row of a sensor: nothing, or other details of the sensor, or the
status that a status change or a deactivation tells, when the row does not outdate it. -/
inductive SensorMove (message : Message) (row : SensorSnapshot) : SensorSnapshot → Prop
  | kept : SensorMove message row row
  | refreshed (details : SensorDetails) (now : Instant) :
    SensorMove message row (row.withDetails details now)
  | changed {event : Event.SensorOperationalStatusChanged} {status : SensorStatus}
    (told : message = .sensorOperationalStatusChanged event) (about : event.sensorId = row.id)
    (named : SensorStatus.ofText event.newStatus = .ok status)
    (current : row.isOlderThanLastChange event.occurredOn = false) (now : Instant) :
    SensorMove message row (row.changeStatus status event.reason event.occurredOn now)
  | deactivated {event : Event.SensorDeactivated} (told : message = .sensorDeactivated event)
    (current : row.isOlderThanLastChange event.occurredOn = false) (now : Instant) :
    SensorMove message row (row.changeStatus .inactive event.reason event.occurredOn now)

theorem SensorRuling.move {rule : Rule SensorSnapshot .sensor} {row : SensorSnapshot}
    (ruling : SensorRuling policy message rule) (about : rule.id = row.id)
    (current : rule.outdates row = false) (now : Instant) :
    SensorMove message row (rule.change row now) := by
  cases ruling with
  | registration _ => exact .refreshed _ now
  | statusChange checked => exact .changed rfl about (of_check_statusChange checked).2 current now
  | deactivation _ => exact .deactivated rfl current now

/-- What a message makes of the row of an owner: nothing, or a row that is changed as of the time of
the message, when the old one does not outdate it, and that is active only if the old one was. -/
inductive OwnerMove (message : Message) (owner : OwnerSnapshot) : OwnerSnapshot → Prop
  | kept : OwnerMove message owner owner
  | changed {next : OwnerSnapshot} (since : next.lastChangedAt = message.occurredOn)
    (current : owner.isOlderThanLastChange message.occurredOn = false)
    (alive : next.isActive = true → owner.isActive = true) : OwnerMove message owner next

theorem OwnerRuling.move {rule : Rule OwnerSnapshot .owner} {owner : OwnerSnapshot}
    (ruling : OwnerRuling policy message rule) (current : rule.outdates owner = false)
    (now : Instant) : OwnerMove message owner (rule.change owner now) := by
  cases ruling with
  | creation _ => exact .changed rfl current id
  | update _ => exact .changed rfl current id
  | deactivation _ => exact .changed rfl current (by rintro ⟨⟩)

/-- An event about a sensor leaves the owners alone. -/
theorem Rule.Effect.owners {rule : Rule SensorSnapshot .sensor} {context : MessageContext}
    {now : Instant} {result : Except InboxError Outcome}
    (effect : rule.Effect context tables now result after) : after.owners = tables.owners := by
  cases effect <;> rfl

/-- An event about an owner leaves the sensors alone. -/
theorem Rule.Effect.sensors {rule : Rule OwnerSnapshot .owner} {context : MessageContext}
    {now : Instant} {result : Except InboxError Outcome}
    (effect : rule.Effect context tables now result after) : after.sensors = tables.sensors := by
  cases effect <;> rfl

/-- Whether every row of an earlier store is still there, after a move that a message makes. -/
structure Moved (message : Message) (tables after : Tables) : Prop where
  sensor : ∀ {id row}, find? tables.sensors id = some row →
    ∃ next, find? after.sensors id = some next ∧ SensorMove message row next
  owner : ∀ {id owner}, find? tables.owners id = some owner →
    ∃ next, find? after.owners id = some next ∧ OwnerMove message owner next

theorem Moved.refl (message : Message) (tables : Tables) : Moved message tables tables where
  sensor found := ⟨_, found, .kept⟩
  owner found := ⟨_, found, .kept⟩

/-- Whatever is delivered, and whether or not its commit fails, it moves each row at most once. -/
theorem handle_moved (policy : StalenessPolicy) (message : Message) (context : MessageContext)
    (world : World Tables) :
    Moved message world.store (handle policy message context world).2.store := by
  rcases ruling_cases policy message with ⟨outcome, -, plan⟩ | ⟨rule, ruling⟩ | ⟨rule, ruling⟩
  · rw [handle_of_done plan]
    exact .refl message world.store
  · obtain ⟨result, left, handled, effect⟩ := ruling.governs.handle context world
    rw [handled]
    refine ⟨fun {id row} found => ?_, fun found => ⟨_, effect.owners ▸ found, .kept⟩⟩
    rcases effect.row rfl found with kept | ⟨about, current, changed⟩
    · exact ⟨row, kept, .kept⟩
    · have same : rule.id = row.id := about.trans (Tables.id_of_find? found).symm
      exact ⟨_, changed, ruling.move same current _⟩
  · obtain ⟨result, left, handled, effect⟩ := ruling.governs.handle context world
    rw [handled]
    refine ⟨fun found => ⟨_, effect.sensors ▸ found, .kept⟩, fun {id owner} found => ?_⟩
    rcases effect.row rfl found with kept | ⟨-, current, changed⟩
    · exact ⟨owner, kept, .kept⟩
    · exact ⟨_, changed, ruling.move current _⟩

/-! ## What the moves keep -/

section Rows

variable {row next : SensorSnapshot} {owner later : OwnerSnapshot}

theorem SensorMove.since_le (move : SensorMove message row next) {since : Instant}
    (dated : row.lastStatusChangeAt = some since) :
    ∃ last, next.lastStatusChangeAt = some last ∧ since ≤ last := by
  cases move with
  | kept => exact ⟨since, dated, le_refl since⟩
  | refreshed _ _ => exact ⟨since, dated, le_refl since⟩
  | changed _ _ _ current _ =>
    exact ⟨_, rfl, by simpa [SensorSnapshot.isOlderThanLastChange, dated] using current⟩
  | deactivated _ current _ =>
    exact ⟨_, rfl, by simpa [SensorSnapshot.isOlderThanLastChange, dated] using current⟩

/-- News from before the last change leave the status that a row shows alone. -/
theorem SensorMove.ofRow?_of_older (move : SensorMove message row next) {shown : Standing}
    (shows : Standing.ofRow? row = some shown) (older : message.occurredOn < shown.since) :
    Standing.ofRow? next = some shown := by
  cases move with
  | kept => exact shows
  | refreshed _ _ => exact shows
  | changed told _ _ current _ =>
    subst told
    exact absurd older (not_lt.mpr (le_of_not_older shows current))
  | deactivated told current _ =>
    subst told
    exact absurd older (not_lt.mpr (le_of_not_older shows current))

/-- Only the news that a sensor is active wake it, and they are no older than its last change. -/
theorem SensorMove.wakes (move : SensorMove message row next) (was : row.isActive = false)
    (is : next.isActive = true) :
    ∃ event, message = .sensorOperationalStatusChanged event ∧ event.sensorId = row.id ∧
      SensorStatus.ofText event.newStatus = .ok .active ∧
      ∀ since, row.lastStatusChangeAt = some since → since ≤ event.occurredOn := by
  cases move with
  | kept => simp [was] at is
  | refreshed _ _ => simp [SensorSnapshot.withDetails, was] at is
  | deactivated _ _ _ => cases is
  | @changed event status told about named current _ =>
    obtain rfl : status = .active := by
      simpa [SensorSnapshot.changeStatus, SensorStatus.isActive] using is
    refine ⟨event, told, about, named, fun since dated => ?_⟩
    simpa [SensorSnapshot.isOlderThanLastChange, dated] using current

theorem OwnerMove.since_le (move : OwnerMove message owner later) :
    owner.lastChangedAt ≤ later.lastChangedAt := by
  cases move with
  | kept => exact le_refl _
  | changed since current _ =>
    simpa [OwnerSnapshot.isOlderThanLastChange, since] using current

theorem OwnerMove.eq_of_older (move : OwnerMove message owner later)
    (older : message.occurredOn < owner.lastChangedAt) : later = owner := by
  cases move with
  | kept => rfl
  | changed _ current _ => simp [OwnerSnapshot.isOlderThanLastChange, older] at current

theorem OwnerMove.inactive (move : OwnerMove message owner later)
    (was : owner.isActive = false) : later.isActive = false := by
  cases move with
  | kept => exact was
  | changed _ _ alive =>
    by_contra is
    simp [alive (by simpa using is)] at was

end Rows

/-- Whether no snapshot has moved back from an earlier store: each is still there, its last change
is no earlier, and an owner that was inactive is inactive. -/
structure Onward (tables after : Tables) : Prop where
  sensor : ∀ id row, find? tables.sensors id = some row →
    ∃ next, find? after.sensors id = some next ∧
      ∀ since, row.lastStatusChangeAt = some since →
        ∃ last, next.lastStatusChangeAt = some last ∧ since ≤ last
  owner : ∀ id owner, find? tables.owners id = some owner →
    ∃ next, find? after.owners id = some next ∧ owner.lastChangedAt ≤ next.lastChangedAt ∧
      (owner.isActive = false → next.isActive = false)

theorem Onward.refl (tables : Tables) : Onward tables tables where
  sensor _ row found := ⟨row, found, fun since dated => ⟨since, dated, le_refl since⟩⟩
  owner _ owner found := ⟨owner, found, le_refl _, id⟩

theorem Onward.trans (first : Onward tables middle) (second : Onward middle after) :
    Onward tables after where
  sensor id row found := by
    obtain ⟨between, there, onward⟩ := first.sensor id row found
    obtain ⟨next, still, further⟩ := second.sensor id between there
    refine ⟨next, still, fun since dated => ?_⟩
    obtain ⟨since', dated', later⟩ := onward since dated
    obtain ⟨last, datedLast, latest⟩ := further since' dated'
    exact ⟨last, datedLast, le_trans later latest⟩
  owner id owner found := by
    obtain ⟨between, there, later, stays⟩ := first.owner id owner found
    obtain ⟨next, still, latest, staysToo⟩ := second.owner id between there
    exact ⟨next, still, le_trans later latest, staysToo ∘ stays⟩

theorem Moved.onward (moved : Moved message tables after) : Onward tables after where
  sensor _ _ found := by
    obtain ⟨next, there, move⟩ := moved.sensor found
    exact ⟨next, there, fun _ dated => move.since_le dated⟩
  owner _ _ found := by
    obtain ⟨next, there, move⟩ := moved.owner found
    exact ⟨next, there, move.since_le, move.inactive⟩

/-- Whether a message was heeded only as far as it is news: what it tells from before the last
change of a snapshot has changed nothing, and a sensor that it woke was told to be active. -/
structure Heeded (message : Message) (tables after : Tables) : Prop where
  olderForSensor : ∀ id row shown, find? tables.sensors id = some row →
    Standing.ofRow? row = some shown → message.occurredOn < shown.since →
      ∃ next, find? after.sensors id = some next ∧ Standing.ofRow? next = some shown
  olderForOwner : ∀ id owner, find? tables.owners id = some owner →
    message.occurredOn < owner.lastChangedAt → find? after.owners id = some owner
  wakes : ∀ id row next, find? tables.sensors id = some row → find? after.sensors id = some next →
    row.isActive = false → next.isActive = true →
      ∃ event, message = .sensorOperationalStatusChanged event ∧ event.sensorId = id ∧
        SensorStatus.ofText event.newStatus = .ok .active ∧
        ∀ since, row.lastStatusChangeAt = some since → since ≤ event.occurredOn

theorem Moved.heeded (moved : Moved message tables after) : Heeded message tables after where
  olderForSensor _ _ _ found shows older := by
    obtain ⟨next, there, move⟩ := moved.sensor found
    exact ⟨next, there, move.ofRow?_of_older shows older⟩
  olderForOwner _ _ found older := by
    obtain ⟨next, there, move⟩ := moved.owner found
    rwa [move.eq_of_older older] at there
  wakes _ _ _ found there was is := by
    obtain ⟨next, again, move⟩ := moved.sensor found
    cases again.symm.trans there
    obtain ⟨event, told, about, named, current⟩ := move.wakes was is
    exact ⟨event, told, about.trans (Tables.id_of_find? found), named, current⟩

/-! ## Runs -/

/-- A delivery, after a pause in which the clock is set and the next commit set to fail or not. -/
structure Arrival where
  delivery : Delivery
  clock : Clock
  drawn : Nat
  failing : Bool

/-- The world after an arrival, whatever the inbox answers. -/
def arrive (policy : StalenessPolicy) (world : World Tables) (arrival : Arrival) : World Tables :=
  (handle policy arrival.delivery.message arrival.delivery.context
    (world.pause arrival.clock arrival.drawn arrival.failing)).2

def arriveAll (policy : StalenessPolicy) (world : World Tables) (arrivals : List Arrival) :
    World Tables := arrivals.foldl (arrive policy) world

theorem arrive_moved (policy : StalenessPolicy) (world : World Tables) (arrival : Arrival) :
    Moved arrival.delivery.message world.store (arrive policy world arrival).store := by
  have moved := handle_moved policy arrival.delivery.message arrival.delivery.context
    (world.pause arrival.clock arrival.drawn arrival.failing)
  -- The pause touches no row.
  exact ⟨moved.sensor, moved.owner⟩

theorem onward_arriveAll (policy : StalenessPolicy) (world : World Tables)
    (arrivals : List Arrival) : Onward world.store (arriveAll policy world arrivals).store := by
  induction arrivals generalizing world with
  | nil => exact .refl world.store
  | cons arrival rest ih => exact (arrive_moved policy world arrival).onward.trans (ih _)

/-- Whatever arrives, whenever it happened, whatever the clock tells and whichever commits fail: no
snapshot moves back from any point of a run to any later one, and each message is heeded only as
far as it is news. -/
theorem snapshots_move_onward (policy : StalenessPolicy) (world : World Tables)
    (earlier later : List Arrival) (arrival : Arrival) :
    let before := arriveAll policy world earlier
    let after := arrive policy before arrival
    Onward before.store (arriveAll policy after later).store ∧
      Heeded arrival.delivery.message before.store after.store := by
  intro before after
  have moved := arrive_moved policy before arrival
  exact ⟨moved.onward.trans (onward_arriveAll policy after later), moved.heeded⟩

end Fieldwatch.Inbox
