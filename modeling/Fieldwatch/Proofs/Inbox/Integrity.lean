import Fieldwatch.Proofs.Inbox.Checks
import Fieldwatch.Proofs.Inbox.Consumers
import Fieldwatch.Proofs.Store.Writes

/-!
# Integrity of the snapshots

However competing consumers interleave, and whichever of their commits fail, the tables of snapshots
keep one sound row for each identifier, and no row is removed or loses the time at which it was
made. A consumer may write a whole row that it read long before; the row is sound nevertheless, and
there is still one to overwrite, made at the same time.
-/
namespace Fieldwatch

open Tables (find? write? Keyed)

/-- Whether a row may stand in the table of sensors. -/
structure SensorSnapshot.Sound (sensor : SensorSnapshot) : Prop where
  id : sensor.id.isNil = false
  details : sensor.details.Sound
  liveness : sensor.isActive = true ↔ sensor.status = .active
  dated : sensor.lastStatusChangeAt.isSome = true

theorem SensorSnapshot.Sound.changeStatus {sensor : SensorSnapshot} (sound : sensor.Sound)
    (status : SensorStatus) (reason : Option String) (occurredOn now : Instant) :
    (sensor.changeStatus status reason occurredOn now).Sound :=
  ⟨sound.id, sound.details, by simp [SensorSnapshot.changeStatus, SensorStatus.isActive], rfl⟩

/-- Whether a row may stand in the table of owners. -/
structure OwnerSnapshot.Sound (owner : OwnerSnapshot) : Prop where
  id : owner.id.isNil = false
  details : owner.details.Sound

namespace Inbox

/-- When the rows of a table were made, and which of them are sound; retiring one keeps both. -/
class Upkeep (σ : Type) {kind : outParam IdKind} [Snapshot σ kind] where
  createdAt : σ → Instant
  Sound : σ → Prop
  of_retire? : ∀ {row retired : σ} {occurredOn now : Instant},
    Snapshot.retire? row occurredOn now = some retired →
      createdAt retired = createdAt row ∧ (Sound row → Sound retired)

instance : Upkeep SensorSnapshot where
  createdAt := SensorSnapshot.createdAt
  Sound := SensorSnapshot.Sound
  of_retire? retires := by
    rw [SensorSnapshot.eq_of_retire? retires]
    exact ⟨rfl, fun sound => sound.changeStatus ..⟩

instance : Upkeep OwnerSnapshot where
  createdAt := OwnerSnapshot.createdAt
  Sound := OwnerSnapshot.Sound
  of_retire? retires := by
    rw [OwnerSnapshot.eq_of_retire? retires]
    exact ⟨rfl, fun sound => ⟨sound.id, sound.details⟩⟩

/-! ## Tables -/

section Tables

variable {σ : Type} {kind : IdKind} [Snapshot σ kind] [Upkeep σ] {rows middle after : List σ}
  {write : SnapshotWrite σ kind}

/-- Whether a table holds one row for each identifier, each under its own, and all of them sound. -/
structure SoundRows (rows : List σ) : Prop where
  ids : (rows.map Snapshot.id).Nodup
  keyed : Keyed rows
  sound : ∀ row ∈ rows, Upkeep.Sound row

theorem soundRows_nil : SoundRows ([] : List σ) where
  ids := List.nodup_nil
  keyed := by rintro _ ⟨⟩
  sound := by rintro _ ⟨⟩

/-- Whether every row of a table is still there, made when it was made. -/
def Grows (rows after : List σ) : Prop :=
  ∀ id row, find? rows id = some row →
    ∃ next, find? after id = some next ∧ Snapshot.id next = Snapshot.id row ∧
      Upkeep.createdAt next = Upkeep.createdAt row

theorem Grows.refl (rows : List σ) : Grows rows rows := fun _ row found => ⟨row, found, rfl, rfl⟩

theorem Grows.trans (first : Grows rows middle) (second : Grows middle after) :
    Grows rows after := by
  intro id row found
  obtain ⟨next, there, same, made⟩ := first id row found
  obtain ⟨last, still, owns, kept⟩ := second id next there
  exact ⟨last, still, owns.trans same, kept.trans made⟩

/-- Whether a write may be made to a table, now or after the table has grown: what it adds is sound,
and what it puts in the place of a row is sound and was made when that row was. -/
inductive Fits (rows : List σ) : SnapshotWrite σ kind → Prop
  | add {row : σ} (sound : Upkeep.Sound row) : Fits rows (.add row)
  | update {row old : σ} (found : find? rows (Snapshot.id row) = some old)
    (sound : Upkeep.Sound row) (made : Upkeep.createdAt row = Upkeep.createdAt old) :
    Fits rows (.update row)
  | delete (id : Id kind) (occurredOn now : Instant) : Fits rows (.delete id occurredOn now)

theorem Fits.mono (fits : Fits rows write) (grows : Grows rows after) : Fits after write := by
  cases fits with
  | add sound => exact .add sound
  | update found sound made =>
    obtain ⟨next, there, -, kept⟩ := grows _ _ found
    exact .update there sound (made.trans kept.symm)
  | delete => exact .delete ..

/-- What a write that fits makes of the row of its identifier is sound, and was made when the row
that was there was made. -/
theorem Fits.result (fits : Fits rows write) (sound : SoundRows rows) {row : σ}
    (made : write.result (find? rows write.target) = some row) :
    Upkeep.Sound row ∧ ∀ old, find? rows write.target = some old →
      Upkeep.createdAt row = Upkeep.createdAt old := by
  have soundOld {id : Id kind} {old : σ} (found : find? rows id = some old) : Upkeep.Sound old :=
    sound.sound old (List.mem_of_find?_eq_some found)
  cases fits with
  | @add added soundAdded =>
    simp only [SnapshotWrite.result, SnapshotWrite.target, Option.some.injEq] at made ⊢
    cases found : find? rows (Snapshot.id added) with
    | none =>
      rw [found] at made
      exact ⟨made ▸ soundAdded, by rintro _ ⟨⟩⟩
    | some old =>
      rw [found] at made
      cases made
      exact ⟨soundOld found, by rintro _ ⟨⟩; rfl⟩
  | @update changed _ found soundChanged kept =>
    simp only [SnapshotWrite.result, SnapshotWrite.target] at made ⊢
    rw [found] at made ⊢
    cases made
    exact ⟨soundChanged, by rintro _ ⟨⟩; exact kept⟩
  | delete id occurredOn now =>
    simp only [SnapshotWrite.result, SnapshotWrite.target] at made ⊢
    cases found : find? rows id with
    | none =>
      rw [found] at made
      cases made
    | some old =>
      rw [found] at made
      cases retires : Snapshot.retire? old occurredOn now with
      | none =>
        simp only [Option.map_some, retires, Option.getD_none, Option.some.injEq] at made
        subst made
        exact ⟨soundOld found, by rintro _ ⟨⟩; rfl⟩
      | some retired =>
        simp only [Option.map_some, retires, Option.getD_some, Option.some.injEq] at made
        subst made
        obtain ⟨same, keeps⟩ := Upkeep.of_retire? retires
        exact ⟨keeps (soundOld found), by rintro _ ⟨⟩; exact same⟩

theorem SoundRows.placed {row : σ} (sound : SoundRows rows) (soundRow : Upkeep.Sound row) :
    SoundRows (Tables.placed rows row) where
  ids := by
    rw [Tables.ids_placed]
    split
    · rw [List.append_nil]
      exact sound.ids
    · next fresh =>
      refine List.nodup_append.mpr ⟨sound.ids, by simp, fun id among other this => ?_⟩
      rw [List.mem_singleton.mp this]
      rintro rfl
      exact fresh among
  keyed := sound.keyed.placed row
  sound other member := by
    rcases Tables.mem_placed member with rfl | ⟨old, -⟩
    · exact soundRow
    · exact sound.sound other old

theorem grows_placed {row : σ} (kept : ∀ old, find? rows (Snapshot.id row) = some old →
    Upkeep.createdAt row = Upkeep.createdAt old) : Grows rows (Tables.placed rows row) := by
  intro id old found
  rw [Tables.find?_placed]
  split
  · next owns =>
    subst owns
    exact ⟨row, rfl, (Tables.id_of_find? found).symm, kept old found⟩
  · exact ⟨old, found, rfl, rfl⟩

/-- A write that fits leaves a sound table, in which every row is still there. -/
theorem Fits.write? [LawfulSnapshot σ] (fits : Fits rows write) (sound : SoundRows rows) :
    SoundRows ((Tables.write? rows write).getD rows) ∧
      Grows rows ((Tables.write? rows write).getD rows) := by
  rcases Tables.write?_cases rows write with ⟨ignored, -⟩ | ⟨row, owns, made, taken⟩
  · rw [ignored, Option.getD_none]
    exact ⟨sound, .refl rows⟩
  · rw [taken, Option.getD_some]
    obtain ⟨soundRow, kept⟩ := fits.result sound made
    exact ⟨sound.placed soundRow, grows_placed (owns ▸ kept)⟩

/-! ## Rules -/

/-- What a rule keeps: what it makes is sound, and what it changes stays sound and is of the time
when it was made; it changes a row by overwriting or by retiring it. -/
structure Rule.Upholds (rule : Rule σ kind) : Prop where
  sound_create : ∀ {create}, rule.create? = some create → ∀ now, Upkeep.Sound (create now)
  sound_change : ∀ {row}, Upkeep.Sound row → ∀ now, Upkeep.Sound (rule.change row now)
  createdAt_change : ∀ row now, Upkeep.createdAt (rule.change row now) = Upkeep.createdAt row
  write_cases : ∀ row now, rule.write row now = .update (rule.change row now) ∨
    ∃ occurredOn, rule.write row now = .delete (Snapshot.id row) occurredOn now

/-- What a rule stages on a sound table fits the table. -/
theorem Rule.Upholds.fits {rule : Rule σ kind} (upholds : rule.Upholds) (lawful : rule.Lawful)
    (sound : SoundRows rows) {now : Instant}
    (staged : rule.staged? (find? rows rule.id) now = some write) : Fits rows write := by
  rcases staged?_cases staged with ⟨create, -, made, rfl⟩ | ⟨row, found, -, -, rfl⟩
  · exact .add (upholds.sound_create made now)
  · rcases upholds.write_cases row now with updates | ⟨occurredOn, deletes⟩
    · have owns : Snapshot.id (rule.change row now) = rule.id :=
        (lawful.id_change row now).trans (Tables.id_of_find? found)
      rw [updates]
      exact .update (owns ▸ found)
        (upholds.sound_change (sound.sound row (List.mem_of_find?_eq_some found)) now)
        (upholds.createdAt_change row now)
    · rw [deletes]
      exact .delete ..

end Tables

theorem SensorRuling.upholds {policy : StalenessPolicy} {message : Message}
    {rule : Rule SensorSnapshot .sensor} (ruling : SensorRuling policy message rule) :
    rule.Upholds := by
  cases ruling with
  | @registration event status checked =>
    obtain ⟨real, details, -⟩ := of_check_registration checked
    exact {
      sound_create := by
        rintro _ ⟨⟩ now
        exact ⟨real, details, by simp [SensorSnapshot.register, SensorStatus.isActive], rfl⟩
      sound_change := fun sound _ => ⟨sound.id, details, sound.liveness, sound.dated⟩
      createdAt_change := fun _ _ => rfl
      write_cases := fun _ _ => .inl rfl }
  | @statusChange event status checked =>
    exact {
      sound_create := by rintro _ ⟨⟩
      sound_change := fun sound _ => sound.changeStatus _ _ _ _
      createdAt_change := fun _ _ => rfl
      write_cases := fun _ _ => .inl rfl }
  | @deactivation event checked =>
    exact {
      sound_create := by rintro _ ⟨⟩
      sound_change := fun sound _ => sound.changeStatus _ _ _ _
      createdAt_change := fun _ _ => rfl
      write_cases := fun _ _ => .inl rfl }

theorem profile_upholds {id : OwnerId} (policy : StalenessPolicy) {details : OwnerDetails}
    (sound : details.Sound) (occurredOn : Instant) {create? : Option (Instant → OwnerSnapshot)}
    (soundCreate : ∀ {create}, create? = some create → ∀ now, (create now).Sound) :
    (profile id policy details occurredOn create?).Upholds where
  sound_create made now := soundCreate made now
  sound_change old _ := ⟨old.id, sound⟩
  createdAt_change _ _ := rfl
  write_cases _ _ := .inl rfl

theorem OwnerRuling.upholds {policy : StalenessPolicy} {message : Message}
    {rule : Rule OwnerSnapshot .owner} (ruling : OwnerRuling policy message rule) :
    rule.Upholds := by
  cases ruling with
  | creation checked =>
    obtain ⟨real, sound⟩ := of_check_profile checked
    refine profile_upholds policy sound _ ?_
    rintro _ ⟨⟩ now
    exact ⟨real, sound⟩
  | update checked =>
    refine profile_upholds policy (of_check_profile checked).2 _ ?_
    rintro _ ⟨⟩
  | deactivation _ =>
    exact {
      sound_create := by rintro _ ⟨⟩
      sound_change := fun old _ => ⟨old.id, old.details⟩
      createdAt_change := fun _ _ => rfl
      write_cases := fun owner _ => .inr ⟨_, rfl⟩ }

/-! ## Runs -/

/-- Whether both tables of snapshots are sound. -/
structure Sound (tables : Tables) : Prop where
  sensors : SoundRows tables.sensors
  owners : SoundRows tables.owners

structure Grown (tables after : Tables) : Prop where
  sensors : Grows tables.sensors after.sensors
  owners : Grows tables.owners after.owners

theorem Grown.refl (tables : Tables) : Grown tables tables := ⟨.refl _, .refl _⟩

theorem Grown.trans {tables middle after : Tables} (first : Grown tables middle)
    (second : Grown middle after) : Grown tables after :=
  ⟨first.sensors.trans second.sensors, first.owners.trans second.owners⟩

/-- What a consumer may have decided: to pass an event over, or one write to a sensor or an owner
that fits its table. -/
inductive Suits (tables : Tables) : Decision → Prop
  | skip (outcome : Outcome) : Suits tables (.skip outcome)
  | sensor {write : SnapshotWrite SensorSnapshot .sensor} (fits : Fits tables.sensors write)
    (outcome : Outcome) : Suits tables (.write (Shelf.stage write) outcome)
  | owner {write : SnapshotWrite OwnerSnapshot .owner} (fits : Fits tables.owners write)
    (outcome : Outcome) : Suits tables (.write (Shelf.stage write) outcome)

theorem Suits.mono {tables after : Tables} {decision : Decision} (suits : Suits tables decision)
    (grown : Grown tables after) : Suits after decision := by
  cases suits with
  | skip outcome => exact .skip outcome
  | sensor fits outcome => exact .sensor (fits.mono grown.sensors) outcome
  | owner fits outcome => exact .owner (fits.mono grown.owners) outcome

variable {context : MessageContext} {world : World Tables}

theorem load_suits (policy : StalenessPolicy) (message : Message) (context : MessageContext)
    (sound : Sound world.store) :
    ∃ decided clock, load (Plan.ofMessage policy message) context world =
        (.ok decided, { world with now := clock }) ∧ Suits world.store decided.decision := by
  rcases ruling_cases policy message with ⟨outcome, -, plan⟩ | ⟨rule, ruling⟩ | ⟨rule, ruling⟩
  · exact ⟨_, world.now, plan ▸ load_done outcome, .skip outcome⟩
  · refine ⟨_, _, ruling.governs.load context world, ?_⟩
    simp only [Rule.decide_eq]
    cases staged : rule.staged? (rule.stored? world.store) world.now.time with
    | none => exact .skip _
    | some write => exact .sensor (ruling.upholds.fits ruling.lawful sound.sensors staged) _
  · refine ⟨_, _, ruling.governs.load context world, ?_⟩
    simp only [Rule.decide_eq]
    cases staged : rule.staged? (rule.stored? world.store) world.now.time with
    | none => exact .skip _
    | some write => exact .owner (ruling.upholds.fits ruling.lawful sound.owners staged) _

theorem finish_suits {targetId : EntityId} {decision : Decision} (context : MessageContext)
    (sound : Sound world.store) (suits : Suits world.store decision) :
    ∃ answer after, finish ⟨targetId, decision⟩ context world = (answer, after) ∧
      Sound after.store ∧ Grown world.store after.store := by
  cases suits with
  | skip outcome => exact ⟨_, _, finish_skip targetId outcome, sound, .refl _⟩
  | sensor fits outcome =>
    cases unset : world.store.failNextCommit with
    | true =>
      -- The commit is refused: all that changes is the switch.
      exact ⟨_, _, finish_of_failNext targetId _ outcome unset, ⟨sound.sensors, sound.owners⟩,
        .refl _, .refl _⟩
    | false =>
      obtain ⟨soundRows, grows⟩ := fits.write? sound.sensors
      exact ⟨_, _, finish_stage targetId outcome unset, ⟨soundRows, sound.owners⟩, grows, .refl _⟩
  | owner fits outcome =>
    cases unset : world.store.failNextCommit with
    | true =>
      exact ⟨_, _, finish_of_failNext targetId _ outcome unset, ⟨sound.sensors, sound.owners⟩,
        .refl _, .refl _⟩
    | false =>
      obtain ⟨soundRows, grows⟩ := fits.write? sound.owners
      exact ⟨_, _, finish_stage targetId outcome unset, ⟨sound.sensors, soundRows⟩, .refl _, grows⟩

/-- Whether the tables of consumers are sound and have only grown, and what is under way suits
them. -/
structure Upheld (start : Tables) (consumers : Consumers) : Prop where
  sound : Sound consumers.world.store
  grown : Grown start consumers.world.store
  suits : ∀ pending ∈ consumers.underway, Suits consumers.world.store pending.decided.decision

theorem Upheld.move {start : Tables} {consumers : Consumers} (upheld : Upheld start consumers)
    (move : Move) : Upheld start (consumers.move move) := by
  obtain ⟨sound, grown, suits⟩ := upheld
  cases move with
  | pause clock drawn failing =>
    exact ⟨⟨sound.sensors, sound.owners⟩, grown.trans ⟨.refl _, .refl _⟩, fun pending member =>
      (suits pending member).mono ⟨.refl _, .refl _⟩⟩
  | load policy message context =>
    obtain ⟨decided, clock, loaded, fits⟩ := load_suits policy message context sound
    rw [Consumers.move, Consumers.load_of_ok loaded]
    refine ⟨sound, grown, fun pending member => ?_⟩
    rcases List.mem_append.mp member with old | new
    · exact suits pending old
    · rw [List.mem_singleton.mp new]
      exact fits
  | finish place =>
    rw [Consumers.move]
    rcases consumers.finish_cases place with
      idle | ⟨pending, member, _, _, underway, finished, fewer, left⟩
    · rw [idle]
      exact ⟨sound, grown, suits⟩
    · obtain ⟨_, _, again, soundAfter, onward⟩ :=
        finish_suits pending.context sound (suits pending member)
      cases again.symm.trans finished
      rw [left]
      -- What others have decided on older tables still suits these, since they have only grown.
      exact ⟨soundAfter, grown.trans onward, fun other among =>
        (suits other (fewer among)).mono onward⟩

theorem Upheld.run {start : Tables} {consumers : Consumers} (upheld : Upheld start consumers)
    (moves : List Move) : Upheld start (consumers.run moves) :=
  consumers.run_of_move (Upheld start) upheld fun _ upheld move _ => upheld.move move

/-- Whatever consumers that start on an empty store load and finish, in whatever order and with
whichever commits failing, the tables of snapshots are sound at any time, and at any later time
every row is still there, made when it was made. -/
theorem snapshots_stay_sound (clock : Clock) (ids : IdSource) (counters : Counters)
    (earlier later : List Move) :
    let start : Consumers := ⟨⟨clock, ids, .empty, counters⟩, [], []⟩
    Sound (start.run earlier).world.store ∧
      Grown (start.run earlier).world.store (start.run (earlier ++ later)).world.store := by
  intro start
  have begun : Upheld .empty start := ⟨⟨soundRows_nil, soundRows_nil⟩, .refl _, by rintro _ ⟨⟩⟩
  have reached := begun.run earlier
  have onward : Upheld (start.run earlier).world.store (start.run earlier) :=
    ⟨reached.sound, .refl _, reached.suits⟩
  rw [Consumers.run_append]
  exact ⟨reached.sound, (onward.run later).grown⟩

end Inbox
end Fieldwatch
