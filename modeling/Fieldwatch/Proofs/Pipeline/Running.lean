import Fieldwatch.Main
import Fieldwatch.Proofs.Broker.Recent
import Fieldwatch.Proofs.Delivery.Draining
import Fieldwatch.Proofs.Inbox.Accounts
import Fieldwatch.Proofs.Settings.Numbers

/-!
# Whether a pipeline runs

Settings that were taken may still leave no time between two polls, no entry to a pass, or no
attempt to an entry. Without time between the polls the relay loop breaks down, and only then;
without the others every pass is idle, while otherwise a pass over a new entry publishes.
-/
namespace Fieldwatch

/-! ## The loop -/

section Loop

variable {ι ω σ : Type} [Backend σ] [Hosts ω σ] {handle : Broker.Handler ι ω} {plan : LoopPlan}

theorem RelayLoop.within_ne_broken (ticks : Ticks) (pass : Option (Pass ι)) :
    within ticks pass ≠ .broken := by
  cases pass <;> rintro ⟨⟩

/-- The loop breaks down when it begins, if ever. -/
theorem RelayLoop.broken_of_step {loop : RelayLoop ι} {now : Nat} {state : Broker ι × ω}
    (broken : (loop.step handle plan now state).1 = .broken) :
    loop = .broken ∨ plan.period = 0 := by
  cases loop with
  | starting =>
    by_cases none : plan.period = 0
    · exact .inr none
    · change (if plan.period = 0 then RelayLoop.broken else idle ⟨now, now⟩) = _ at broken
      rw [if_neg none] at broken
      cases broken
  | idle ticks =>
    by_cases due : ticks.pass ≤ now
    · simp only [step, if_pos due] at broken
      exact absurd broken (within_ne_broken _ _)
    · simp only [step, if_neg due] at broken
      cases broken
  | delivering pass ticks => exact absurd broken (within_ne_broken ticks _)
  | stopped => cases broken
  | broken => exact .inl rfl

namespace Pipeline

/-- Whether what the loop does and the passing of time keep a property of pipelines. -/
structure KeptByLoop (handle : Broker.Handler ι ω) (holds : Pipeline ι ω → Prop) : Prop where
  stepAt {pipeline} (time : Nat) : holds pipeline → holds (pipeline.stepAt handle time)
  tick {pipeline} (clock : Nat) : holds pipeline → holds { pipeline with clock }

/-- Whether a caller who publishes keeps it, too. -/
structure KeptByCalls (handle : Broker.Handler ι ω) (holds : Pipeline ι ω → Prop) : Prop
    extends KeptByLoop handle holds where
  send {pipeline} (envelope : Envelope) : holds pipeline →
    holds (Carries.act (Broker.send handle envelope) pipeline).2
  round {pipeline} (parcels : List (Parcel ι)) : holds pipeline →
    holds (Carries.act (Broker.round handle parcels) pipeline).2

section Keeping

variable {holds : Pipeline ι ω → Prop} {pipeline : Pipeline ι ω}

theorem KeptByLoop.runBefore (kept : KeptByLoop handle holds) (deadline steps : Nat)
    (held : holds pipeline) : holds (Pipeline.runBefore handle deadline steps pipeline) := by
  induction steps generalizing pipeline with
  | zero => exact held
  | succ steps ih =>
    rw [Pipeline.runBefore]
    split
    · split
      · exact ih (kept.stepAt _ held)
      · exact held
    · exact held

theorem KeptByLoop.wait (kept : KeptByLoop handle holds) (millis : Nat) (held : holds pipeline) :
    holds (Pipeline.wait handle millis pipeline).2 :=
  kept.tick _ (kept.runBefore _ _ held)

theorem KeptByLoop.endPass (kept : KeptByLoop handle holds) (steps : Nat)
    (held : holds pipeline) : holds (Pipeline.endPass handle steps pipeline) := by
  induction steps generalizing pipeline with
  | zero => exact held
  | succ steps ih =>
    rw [Pipeline.endPass]
    split
    · exact ih (kept.stepAt _ held)
    · exact held

theorem KeptByCalls.redeliver (kept : KeptByCalls handle holds) (rounds : Nat)
    (parcels : List (Parcel ι)) (held : holds pipeline) :
    holds (Broker.redeliver handle (Pipeline.wait handle) rounds parcels pipeline).2 := by
  induction rounds generalizing parcels pipeline with
  | zero => exact held
  | succ rounds ih =>
    cases parcels with
    | nil => exact held
    | cons parcel rest => exact ih _ (kept.round (parcel :: rest) (kept.wait _ held))

theorem KeptByCalls.publish (kept : KeptByCalls handle holds) (envelope : Envelope)
    (held : holds pipeline) : holds (Pipeline.publish handle envelope pipeline).2 := by
  have sent := kept.send envelope held
  simp only [Pipeline.publish, Broker.publish, bind, StateT.bind]
  generalize Carries.act (Broker.send handle envelope) pipeline = answer at sent
  obtain ⟨result, after⟩ := answer
  cases result with
  | error error => exact sent
  | ok parcels => exact kept.redeliver _ parcels sent

end Keeping

/-- Whether a pipeline runs on a plan, and is not broken down without a reason. -/
structure RunsOn (plan : LoopPlan) (pipeline : Pipeline ι ω) : Prop where
  plan_eq : pipeline.plan = plan
  reason : pipeline.loop = .broken → plan.period = 0

namespace RunsOn

variable {pipeline : Pipeline ι ω}

theorem stepAt (runs : RunsOn plan pipeline) (time : Nat) :
    RunsOn plan (pipeline.stepAt handle time) := by
  obtain ⟨rfl, reason⟩ := runs
  refine ⟨rfl, fun broken => ?_⟩
  rcases RelayLoop.broken_of_step broken with already | none
  · exact reason already
  · exact none

theorem keptByCalls (handle : Broker.Handler ι ω) (plan : LoopPlan) :
    KeptByCalls handle (RunsOn plan) where
  stepAt time runs := runs.stepAt time
  tick _ runs := ⟨runs.plan_eq, runs.reason⟩
  send _ runs := ⟨runs.plan_eq, runs.reason⟩
  round _ runs := ⟨runs.plan_eq, runs.reason⟩

theorem shutdown (runs : RunsOn plan pipeline) :
    RunsOn plan (pipeline.shutdown handle) := by
  have ended : RunsOn plan (Pipeline.endPass handle pipeline.stepsLeft pipeline) :=
    (keptByCalls handle plan).endPass _ runs
  obtain ⟨rfl, reason⟩ := ended
  refine ⟨rfl, fun broken => ?_⟩
  simp only [Pipeline.shutdown] at broken
  split at broken
  · by_contra some
    rw [if_neg some] at broken
    cases broken
  · next already => exact reason already
  · cases broken

end RunsOn

/-- What becomes of a pipeline: time passes, envelopes are published to it, others work with its
broker and on what its subscribers share, and it is stopped. -/
inductive Reached (handle : Broker.Handler ι ω) (first : Pipeline ι ω) : Pipeline ι ω → Prop
  | first : Reached handle first first
  | wait {pipeline} (millis : Nat) : Reached handle first pipeline →
    Reached handle first (Pipeline.wait handle millis pipeline).2
  | publish {pipeline} (envelope : Envelope) : Reached handle first pipeline →
    Reached handle first (Pipeline.publish handle envelope pipeline).2
  | work {pipeline} (broker : Broker ι) (shared : ω) : Reached handle first pipeline →
    Reached handle first { pipeline with broker, shared }
  | shutdown {pipeline} : Reached handle first pipeline →
    Reached handle first (pipeline.shutdown handle)

theorem RunsOn.of_reached {first pipeline : Pipeline ι ω} (runs : RunsOn plan first)
    (reached : Reached handle first pipeline) : RunsOn plan pipeline := by
  induction reached with
  | first => exact runs
  | wait millis _ ih => exact (RunsOn.keptByCalls handle plan).wait millis ih
  | publish envelope _ ih => exact (RunsOn.keptByCalls handle plan).publish envelope ih
  | work broker shared _ ih => exact ⟨ih.plan_eq, ih.reason⟩
  | shutdown _ ih => exact ih.shutdown

theorem runBefore_succ {pipeline : Pipeline ι ω} {time deadline steps : Nat}
    (next : pipeline.loop.next? pipeline.plan pipeline.clock = some time) (due : time < deadline) :
    runBefore handle deadline (steps + 1) pipeline =
      runBefore handle deadline steps (pipeline.stepAt handle time) := by
  rw [runBefore, next]
  exact if_pos due

theorem runBefore_of_broken {pipeline : Pipeline ι ω} {deadline steps : Nat}
    (broken : pipeline.loop = .broken) : runBefore handle deadline steps pipeline = pipeline := by
  cases steps with
  | zero => rfl
  | succ steps => rw [runBefore, broken]; rfl

/-- A pipeline that was started breaks down at some time exactly when its settings leave no time
between two polls. -/
theorem start_breaks_iff (handle : Broker.Handler ι ω) (settings : Settings) (shared : ω)
    (inbox : ι) :
    (∃ pipeline, Reached handle (start shared settings inbox) pipeline ∧
      pipeline.loop = .broken) ↔ settings.pollMillis = 0 := by
  have runs : RunsOn (planOf settings) (start shared settings inbox) := ⟨rfl, by rintro ⟨⟩⟩
  constructor
  · rintro ⟨pipeline, reached, broken⟩
    have none : settings.pollMillis.toNat = 0 := (runs.of_reached reached).reason broken
    exact UInt64.toNat_inj.mp none
  · intro none
    have broken : ((start shared settings inbox).stepAt handle 0).loop = .broken := by
      change (if settings.pollMillis.toNat = 0 then RelayLoop.broken else .idle ⟨0, 0⟩) = _
      rw [none]
      rfl
    -- the loop begins as soon as any time passes
    refine ⟨_, .wait 1 .first, ?_⟩
    change (runBefore handle 1 (19 + 1) (start shared settings inbox)).loop = .broken
    rw [runBefore_succ rfl Nat.one_pos, runBefore_of_broken broken]
    exact broken

end Pipeline
end Loop

/-! ## A pass -/

section Pass

open Delivery (outboxOf settle_of_row dispatchAll_cons run_fetch isDeliverable_iff)

variable {ι ω : Type} [Hosts ω Tables]

/-- Whether every row of the outbox still has a row of its identifier later. -/
def KeepsRows (before after : ω) : Prop :=
  (outboxOf before).map OutboxEntry.id ⊆ (outboxOf after).map OutboxEntry.id

/-- Whether a broker is as open as it was, beside an outbox that keeps its rows. -/
structure Steady (before after : Broker ι × ω) : Prop where
  isClosed_eq : after.1.isClosed = before.1.isClosed
  rows : KeepsRows before.2 after.2

theorem Steady.refl (state : Broker ι × ω) : Steady state state :=
  ⟨rfl, List.Subset.refl _⟩

theorem Steady.trans {before middle after : Broker ι × ω} (first : Steady before middle)
    (second : Steady middle after) : Steady before after :=
  ⟨second.isClosed_eq.trans first.isClosed_eq, List.Subset.trans first.rows second.rows⟩

theorem outboxOf_count (counter : Counter) (times : Nat) (shared : ω) :
    outboxOf (Hosts.count counter times shared) = outboxOf shared := by
  unfold outboxOf Hosts.count
  rw [Hosts.world_withWorld]

namespace Broker

/-- A delivery leaves the outbox as the subscriber does. -/
theorem outboxOf_deliver (handle : Handler ι ω) (parcel : Parcel ι) (state : Broker ι × ω) :
    outboxOf (deliver handle parcel state).2.2 = outboxOf (handle parcel state.2).2 := by
  obtain ⟨broker, shared⟩ := state
  obtain ⟨_, _, told, delivered, -, counted⟩ := deliver_cases handle parcel broker shared
  rw [delivered]
  rcases counted with rfl | ⟨counter, rfl⟩
  · rfl
  · exact outboxOf_count _ _ _

variable {handle : Handler ι ω} (keeps : ∀ parcel shared, KeepsRows shared (handle parcel shared).2)
include keeps

theorem deliver_steady (parcel : Parcel ι) (state : Broker ι × ω) :
    Steady state (deliver handle parcel state).2 := by
  refine ⟨(deliver_lettersOnly handle parcel state).isClosed_eq, ?_⟩
  rw [KeepsRows, outboxOf_deliver]
  exact keeps parcel state.2

theorem round_steady (parcels : List (Parcel ι)) (state : Broker ι × ω) :
    Steady state (round handle parcels state).2 := by
  induction parcels generalizing state with
  | nil => exact .refl state
  | cons parcel rest ih => exact (deliver_steady keeps parcel state).trans (ih _)

variable {wait : Nat → StateM (Broker ι × ω) Unit}
  (waits : ∀ millis state, Steady state (wait millis state).2)
include waits

theorem redeliver_steady (rounds : Nat) (parcels : List (Parcel ι)) (state : Broker ι × ω) :
    Steady state (redeliver handle wait rounds parcels state).2 := by
  induction rounds generalizing parcels state with
  | zero => exact .refl state
  | succ rounds ih =>
    cases parcels with
    | nil => exact .refl state
    | cons parcel rest =>
      exact ((waits _ state).trans (round_steady keeps (parcel :: rest) _)).trans (ih _ _)

/-- An open broker takes every envelope. -/
theorem publish_of_open (envelope : Envelope) {state : Broker ι × ω}
    (isOpen : state.1.isClosed = false) :
    ∃ after, publish handle wait envelope state = (.ok (), after) ∧ Steady state after := by
  obtain ⟨broker, shared⟩ := state
  obtain ⟨taken, parcels, accepted, stays⟩ : ∃ taken parcels,
      broker.accept envelope = .ok (taken, parcels) ∧ taken.isClosed = broker.isClosed := by
    rw [accept, if_neg (isOpen ▸ Bool.false_ne_true)]
    exact ⟨_, _, rfl, rfl⟩
  obtain ⟨isClosed_eq, rows⟩ := round_steady keeps parcels (taken, shared)
  have handed : Steady (broker, shared) (round handle parcels (taken, shared)).2 :=
    ⟨isClosed_eq.trans stays, rows⟩
  exact ⟨_, publish_of_accept handle accepted, handed.trans (redeliver_steady keeps waits _ _ _)⟩

end Broker

/-- Settling an entry that has a row is steady. -/
theorem settle_steady {entry : OutboxEntry} {state : Broker ι × ω}
    (there : entry.id ∈ (outboxOf state.2).map OutboxEntry.id) :
    ∃ after, Hosts.run (Relay.settle entry (.ok ())) state = (.ok (), after) ∧
      Steady state after := by
  have found : ∃ row ∈ outboxOf state, row.id = entry.id := List.mem_map.mp there
  obtain ⟨after, now, settled, marked⟩ := settle_of_row found (.ok ())
  refine ⟨after, settled, ?_, ?_⟩
  · exact congrArg (fun answer => answer.2.1.isClosed) settled.symm
  · have ids : (Tables.changeFirst entry.id (Delivery.answered (.ok ()) now) (outboxOf state)).map
        OutboxEntry.id = (outboxOf state).map OutboxEntry.id :=
      Tables.map_changeFirst entry.id (by intro row; rfl) _
    rw [← marked] at ids
    exact fun id member => ids ▸ member

section Publisher

variable {publish : Envelope → StateM (Broker ι × ω) (Except BrokerError Unit)}
  (takes : ∀ envelope state, state.1.isClosed = false →
    ∃ after, publish envelope state = (.ok (), after) ∧ Steady state after)
include takes

/-- Entries that have rows are all published to an open broker. -/
theorem Relay.dispatchAll_of_open (report : RelayReport) {entries : List OutboxEntry}
    {state : Broker ι × ω} (isOpen : state.1.isClosed = false)
    (rows : entries.map OutboxEntry.id ⊆ (outboxOf state.2).map OutboxEntry.id) :
    ∃ after, dispatchAll publish report entries state =
      (.ok { report with published := report.published + entries.length }, after) := by
  induction entries generalizing report state with
  | nil => exact ⟨state, rfl⟩
  | cons entry rest ih =>
    rw [List.map_cons, List.cons_subset] at rows
    obtain ⟨there, others⟩ := rows
    obtain ⟨told, given, first⟩ := takes entry.envelope state isOpen
    obtain ⟨marked, settled, second⟩ := settle_steady (first.rows there)
    have steady := first.trans second
    obtain ⟨after, goesOn⟩ := ih (report.after (.ok ())) (steady.isClosed_eq.trans isOpen)
      (List.Subset.trans others steady.rows)
    refine ⟨after, ?_⟩
    rw [dispatchAll_cons given settled]
    refine goesOn.trans ?_
    rw [RelayReport.after, List.length_cons, Nat.add_assoc, Nat.add_comm 1]

/-- A pass publishes all that it takes to an open broker. -/
theorem Relay.dispatch_of_open (relay : Relay) (batch : UInt64) {state : Broker ι × ω}
    (isOpen : state.1.isClosed = false) :
    ∃ after, relay.dispatch publish batch state =
      (.ok ⟨((Hosts.world state).store.unpublished batch relay.maxAttempts).length, 0⟩, after) := by
  have rows : ((Hosts.world state).store.unpublished batch relay.maxAttempts).map OutboxEntry.id ⊆
      (outboxOf state.2).map OutboxEntry.id :=
    List.map_subset _ fun _ => Tables.mem_of_mem_unpublished
  obtain ⟨after, done⟩ := dispatchAll_of_open takes {} isOpen rows
  refine ⟨after, ?_⟩
  simp only [dispatch, bind, StateT.bind, run_fetch, done, Nat.zero_add]

end Publisher

/-- When the outbox holds a new entry, a pass takes something unless it may take no entry or no
entry may be attempted. -/
theorem Tables.unpublished_pos_iff {tables : Tables} {id : EntryId} {envelope : Envelope}
    {moment : Instant} (staged : .new id envelope moment ∈ tables.outbox) (batch : UInt64)
    (most : UInt32) :
    1 ≤ (tables.unpublished batch most).length ↔ batch ≠ 0 ∧ most ≠ 0 := by
  have size : batch ≠ 0 ↔ 1 ≤ batch.toNat := by
    rw [ne_eq, ← UInt64.toNat_inj, UInt64.toNat_zero]
    omega
  have tries : most ≠ 0 ↔ 1 ≤ most.toNat := by
    rw [ne_eq, ← UInt32.toNat_inj, UInt32.toNat_zero]
    omega
  have deliverable : 1 ≤ (tables.outbox.filter fun row => row.isDeliverable most).length ↔
      1 ≤ most.toNat := by
    rw [Nat.one_le_iff_ne_zero, ← Nat.pos_iff_ne_zero, List.length_pos_iff_exists_mem]
    constructor
    · rintro ⟨row, member⟩
      obtain ⟨-, few⟩ := isDeliverable_iff.mp (List.mem_filter.mp member).2
      omega
    · intro some
      exact ⟨_, List.mem_filter.mpr ⟨staged, isDeliverable_iff.mpr ⟨by rintro ⟨⟩, some⟩⟩⟩
  rw [unpublished, List.length_take, List.length_mergeSort, size, tries, ← deliverable]
  exact le_min_iff

end Pass

/-! ## The inbox -/

section Inbox

/-- Whatever is delivered to the inbox, it leaves the outbox as it is. -/
theorem Inbox.outbox_process (policy : StalenessPolicy) (envelope : Envelope) (attempt : UInt32)
    (world : World Tables) :
    (process policy envelope attempt world).2.store.outbox = world.store.outbox := by
  unfold process
  cases opened : Message.ofEnvelope envelope with
  | error error => rfl
  | ok message =>
    obtain ⟨result, after, handled, accounts⟩ := accounts_handle policy attempt world opened
    simp only [handled]
    by_cases write : TellsWrite result
    · obtain ⟨_, -, wrote⟩ := accounts.wrote write
      generalize after.store = tables at wrote
      cases wrote <;> rfl
    · exact (accounts.kept write).outbox

theorem Program.outbox_receive (policy : StalenessPolicy) (parcel : Parcel Unit)
    (world : World Tables) :
    Delivery.outboxOf (receive policy parcel world).2 = Delivery.outboxOf world :=
  Inbox.outbox_process policy parcel.envelope parcel.attempt world

theorem Program.receive_keepsRows (policy : StalenessPolicy) (parcel : Parcel Unit)
    (world : World Tables) : KeepsRows world (receive policy parcel world).2 := by
  rw [KeepsRows, outbox_receive]
  exact List.Subset.refl _

end Inbox

/-! ## Settings that were taken -/

open Delivery (outboxOf)
open Settings (Environment GivenZero)

/-- Settings run a pipeline unless one of three numbers was given as zero, which is not refused. The
loop breaks down at some time exactly when it was the time between two polls, whatever the store. In
tables that are held in memory, a pass over an outbox with a new entry, beside subscribers and waits
that keep the rows and the broker open, is answered, and an open broker refuses it nothing; it
publishes something exactly when it was neither the most entries of a pass nor the attempts. A
database takes the two numbers through casts of its own, and of its passes nothing is said. -/
theorem pipeline_runs_unless_zero {environment : Environment} {settings : Settings}
    (read : Settings.ofEnvironment environment = .ok settings) :
    ((settings.pollMillis = 0 ↔ GivenZero environment "OUTBOX_POLL_INTERVAL_MS") ∧
      (settings.batchSize = 0 ↔ GivenZero environment "OUTBOX_BATCH_SIZE") ∧
      (settings.maxDeliveryAttempts = 0 ↔
        GivenZero environment "BROKER_MAX_DELIVERY_ATTEMPTS")) ∧
    (∀ {ι ω σ : Type} [Backend σ] [Hosts ω σ] (handle : Broker.Handler ι ω) (shared : ω)
      (inbox : ι),
      (∃ pipeline, Pipeline.Reached handle (.start shared settings inbox) pipeline ∧
        pipeline.loop = .broken) ↔ GivenZero environment "OUTBOX_POLL_INTERVAL_MS") ∧
    ∀ {ι ω : Type} [Hosts ω Tables] (handle : Broker.Handler ι ω)
      (wait : Nat → StateM (Broker ι × ω) Unit) (state : Broker ι × ω) (id : EntryId)
      (envelope : Envelope) (moment : Instant),
      (∀ parcel shared, KeepsRows shared (handle parcel shared).2) →
      (∀ millis state, Steady state (wait millis state).2) →
      state.1.isClosed = false → .new id envelope moment ∈ outboxOf state →
      ∃ report after, (Pipeline.planOf settings).relay.dispatch (Broker.publish handle wait)
          (Pipeline.planOf settings).batch state = (.ok report, after) ∧
        report.failed = 0 ∧
        (1 ≤ report.published ↔ ¬ GivenZero environment "OUTBOX_BATCH_SIZE" ∧
          ¬ GivenZero environment "BROKER_MAX_DELIVERY_ATTEMPTS") := by
  obtain ⟨poll, batch, attempts⟩ := Settings.ofEnvironment_zeros read
  refine ⟨⟨poll, batch, attempts⟩, ?_, ?_⟩
  · intro ι ω σ _ _ handle shared inbox
    rw [Pipeline.start_breaks_iff handle settings shared inbox, poll]
  · intro ι ω _ handle wait state id envelope moment keeps waits isOpen staged
    obtain ⟨after, done⟩ := Relay.dispatch_of_open
      (fun envelope _ => Broker.publish_of_open keeps waits envelope)
      (Pipeline.planOf settings).relay (Pipeline.planOf settings).batch isOpen
    refine ⟨_, after, done, rfl, ?_⟩
    rw [← batch, ← attempts]
    exact Tables.unpublished_pos_iff staged settings.batchSize settings.maxDeliveryAttempts

/-- An environment in which nothing but one name is given. -/
def only (name value : String) : Environment :=
  fun other => if other = name then some value else none

/-- The broker and the store of a pipeline that was started over a store with a new entry. -/
def started (settings : Settings) : Broker Unit × World Tables :=
  Carries.carried (Pipeline.start Delivery.crowdedStore settings ())

/-- With one entry to a pass the loop never breaks down, and a pass publishes. -/
theorem single_entries_run : ∃ settings,
    Settings.ofEnvironment (only "OUTBOX_BATCH_SIZE" "1") = .ok settings ∧
    (∀ pipeline, Pipeline.Reached (Program.receive .standard)
      (.start Delivery.crowdedStore settings ()) pipeline → pipeline.loop ≠ .broken) ∧
    ∃ report after, (Pipeline.planOf settings).relay.dispatch
        (Broker.publish (Program.receive .standard) fun _ => pure ())
        (Pipeline.planOf settings).batch (started settings) = (.ok report, after) ∧
      1 ≤ report.published := by
  have read : Settings.ofEnvironment (only "OUTBOX_BATCH_SIZE" "1") = .ok { batchSize := 1 } := rfl
  obtain ⟨⟨poll, batch, attempts⟩, loop, pass⟩ := pipeline_runs_unless_zero read
  refine ⟨_, read, fun pipeline reached broken => ?_, ?_⟩
  · have none := poll.mpr ((loop _ _ _).mp ⟨pipeline, reached, broken⟩)
    exact absurd none (by decide)
  · obtain ⟨report, after, done, -, some⟩ := pass (Program.receive .standard)
      (fun _ => pure ()) (started { batchSize := 1 }) ⟨2⟩ _ .epoch
      (Program.receive_keepsRows .standard) (fun _ state => .refl state) rfl (.tail _ (.head _))
    exact ⟨report, after, done, some.mpr ⟨mt batch.mpr (by decide), mt attempts.mpr (by decide)⟩⟩

/-- Zero is taken for each of the three numbers: with the first the loop breaks down as soon as it
begins, and with each of the others a pass leaves a new entry where it is. -/
theorem zeros_taken :
    (∃ settings, Settings.ofEnvironment (only "OUTBOX_POLL_INTERVAL_MS" "0") = .ok settings ∧
      (Pipeline.wait (Program.receive .standard) 1
        (.start Delivery.crowdedStore settings ())).2.loop = .broken) ∧
    ∀ name ∈ ["OUTBOX_BATCH_SIZE", "BROKER_MAX_DELIVERY_ATTEMPTS"],
      ∃ settings, Settings.ofEnvironment (only name "0") = .ok settings ∧
        (Pipeline.planOf settings).relay.dispatch
          (Broker.publish (Program.receive .standard) fun _ => pure ())
          (Pipeline.planOf settings).batch (started settings) = (.ok {}, started settings) := by
  refine ⟨⟨_, rfl, rfl⟩, fun name listed => ?_⟩
  rcases List.mem_pair.mp listed with rfl | rfl
  · exact ⟨{ batchSize := 0 }, rfl, Delivery.dispatch_of_nothing rfl⟩
  · refine ⟨{ maxDeliveryAttempts := 0 }, rfl, Delivery.dispatch_of_nothing ?_⟩
    exact (Tables.unpublished_eq_nil_iff (by decide)).mpr (by decide)

end Fieldwatch
