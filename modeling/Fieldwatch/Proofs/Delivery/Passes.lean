import Mathlib.Logic.Relation
import Fieldwatch.Relay
import Fieldwatch.Proofs.Store.Outbox

/-!
# Passes of relays

Any number of passes work on one store beside commits and prunes. A pass takes its entries, hands
one to the publisher, is answered and writes the answer down, and between any two of these steps
anything else may happen, or the pass may stop for good.
-/
namespace Fieldwatch.Delivery

/-- What happened to an outbox and between its relays and the publisher. -/
inductive Happening
  /-- A commit that succeeded added an entry. -/
  | staged (entry : OutboxEntry)
  /-- A commit of these envelopes succeeded. -/
  | committed (envelopes : List Envelope)
  /-- A pass handed an envelope to the publisher. -/
  | handed (envelope : Envelope)
  /-- The publisher answered for an envelope. -/
  | answered (envelope : Envelope) (result : Except BrokerError Unit)
  /-- A row was pruned. -/
  | pruned (row : OutboxEntry)

inductive Pass
  /-- It goes on with the first of its entries. -/
  | ready (entries : List OutboxEntry)
  /-- It handed an entry to the publisher. -/
  | waiting (entry : OutboxEntry) (rest : List OutboxEntry)
  /-- It was answered, and is to write the answer down. -/
  | settling (entry : OutboxEntry) (result : Except BrokerError Unit) (rest : List OutboxEntry)

/-- A store with the passes that are under way and what has happened, the oldest first. -/
structure State where
  world : World Tables
  passes : List Pass
  log : List Happening

/-- Commits writes together with a new entry for each of some envelopes. -/
def commitWith (writes : ChangeSet) (envelopes : List Envelope) :
    Task Tables StoreError CommitReceipt := do
  Task.commit (← envelopes.foldlM ChangeSet.stageEnvelope writes)

/-- The rows that an outbox has beyond an earlier one. -/
def appended (before after : List OutboxEntry) : List OutboxEntry :=
  after.drop before.length

/-- The rows of an outbox that are gone from a later one. -/
def gone (before after : List OutboxEntry) : List OutboxEntry :=
  before.filter fun row => after.all fun left => left.id ≠ row.id

inductive OutboxStep : State → State → Prop
  | pause {world passes log} (clock : Clock) (drawn : Nat) (failing : Bool) :
    OutboxStep ⟨world, passes, log⟩ ⟨world.pause clock drawn failing, passes, log⟩
  | commit {world after passes log writes envelopes receipt} (bare : writes.outbox = [])
    (ran : commitWith writes envelopes world = (.ok receipt, after)) :
    OutboxStep ⟨world, passes, log⟩
      ⟨after, passes, log ++ (appended world.store.outbox after.store.outbox).map .staged
        ++ [.committed envelopes]⟩
  | commitFails {world after passes log writes envelopes error}
    (ran : commitWith writes envelopes world = (.error error, after)) :
    OutboxStep ⟨world, passes, log⟩ ⟨after, passes, log⟩
  | fetch {world after passes log entries} {relay : Relay} {batch : UInt64}
    (ran : relay.fetch batch world = (.ok entries, after)) :
    OutboxStep ⟨world, passes, log⟩ ⟨after, passes ++ [.ready entries], log⟩
  | hand {world before entry rest later log} :
    OutboxStep ⟨world, before ++ .ready (entry :: rest) :: later, log⟩
      ⟨world, before ++ .waiting entry rest :: later, log ++ [.handed entry.envelope]⟩
  | answer {world before entry rest later log} (result : Except BrokerError Unit) :
    OutboxStep ⟨world, before ++ .waiting entry rest :: later, log⟩
      ⟨world, before ++ .settling entry result rest :: later,
        log ++ [.answered entry.envelope result]⟩
  | settle {world after before entry result rest later log}
    (ran : Relay.settle entry result world = (.ok (), after)) :
    OutboxStep ⟨world, before ++ .settling entry result rest :: later, log⟩
      ⟨after, before ++ .ready rest :: later, log⟩
  /-- A mark that fails ends the pass. -/
  | abort {world after before entry result rest later log error}
    (ran : Relay.settle entry result world = (.error error, after)) :
    OutboxStep ⟨world, before ++ .settling entry result rest :: later, log⟩
      ⟨after, before ++ later, log⟩
  /-- A pass stops at any point: it is done, it crashes, or the store does not answer it. -/
  | stop {world before pass later log} :
    OutboxStep ⟨world, before ++ pass :: later, log⟩ ⟨world, before ++ later, log⟩
  | prune {world after passes log count} {relay : Relay}
    (ran : relay.prune world = (.ok count, after)) :
    OutboxStep ⟨world, passes, log⟩
      ⟨after, passes, log ++ (gone world.store.outbox after.store.outbox).map .pruned⟩

/-- Any number of things that happen one after the other. -/
abbrev OutboxSteps : State → State → Prop := Relation.ReflTransGen OutboxStep

/-! ## What tasks do to the outbox -/

/-- A row on which an answer of the publisher was written down. -/
def answered (result : Except BrokerError Unit) (now : Instant) (row : OutboxEntry) : OutboxEntry :=
  match result with
  | .ok _ => row.markPublished now
  | .error error => row.markFailed error.message now

section Settling

variable {σ : Type} [Backend σ]

/-- The call that writes an answer of the publisher down. -/
def writeDown (id : EntryId) (result : Except BrokerError Unit) (now : Instant) : Access σ Unit :=
  match result with
  | .ok _ => Backend.markPublished id now
  | .error error => fun store =>
    let (status, after) := Backend.markFailed id error.message now store
    (status.map fun _ => (), after)

/-- Settling makes one call of the store. -/
theorem settle_writes (entry : OutboxEntry) (result : Except BrokerError Unit) (world : World σ) :
    (Relay.settle entry result world).1 =
        (writeDown entry.id result world.now.time world.store).1 ∧
      (Relay.settle entry result world).2.store =
        (writeDown entry.id result world.now.time world.store).2 ∧
      (Relay.settle entry result world).2.ids = world.ids := by
  cases result with
  | ok _ =>
    rcases called : Backend.markPublished entry.id world.now.time world.store with ⟨_ | _, after⟩
    all_goals simp [Relay.settle, writeDown, Task.bind_apply, called]
  | error error =>
    rcases called : Backend.markFailed entry.id error.message world.now.time world.store
      with ⟨_ | _, after⟩
    all_goals simp [Relay.settle, writeDown, Task.bind_apply, called, Except.map]

/-- In tables the answer is written down on the row of the identifier. -/
theorem writeDown_tables (id : EntryId) (result : Except BrokerError Unit) (now : Instant)
    (tables : Tables) : writeDown id result now tables =
      ((tables.mark id (answered result now)).1.map (fun _ => ()),
        (tables.mark id (answered result now)).2) := by
  cases result with
  | ok _ => rfl
  | error error =>
    change _ = ((tables.mark id (·.markFailed error.message now)).1.map (fun _ => ()),
      (tables.mark id (·.markFailed error.message now)).2)
    simp only [writeDown, Backend.markFailed]
    cases (tables.mark id (·.markFailed error.message now)).1 <;> rfl

end Settling

section Tasks

variable {world after : World Tables}

/-- A commit that succeeds appends new entries under identifiers drawn for them, and leaves the
event of each envelope remembered. -/
theorem commitWith_eq_ok {writes : ChangeSet} {envelopes : List Envelope} {receipt : CommitReceipt}
    (bare : writes.outbox = []) (ran : commitWith writes envelopes world = (.ok receipt, after)) :
    world.Follows after ∧ ∃ added, after.store.outbox = world.store.outbox ++ added ∧
      (∀ entry ∈ added, entry.status = .pending) ∧
      DrawnInOrder world.ids.draw world.ids.used after.ids.used
        (added.map fun entry => entry.id.value) ∧
      (Tables.Remembers world.store.outbox world.store.eventIds →
        Tables.Remembers after.store.outbox after.store.eventIds ∧
          ∀ envelope ∈ envelopes, envelope.eventId ∈ after.store.eventIds) := by
  obtain ⟨changes, middle, staged, committed⟩ := Task.bind_eq_ok.mp ran
  obtain ⟨entries, left, stagedToo, follows, kept, carried, pending, drawn⟩ :=
    ChangeSet.foldlM_stageEnvelope writes envelopes world
  rw [staged] at stagedToo
  cases stagedToo
  obtain ⟨taken, ids⟩ := Task.commit_eq_ok committed
  obtain ⟨added, among, appended⟩ := Tables.outbox_commit taken
  rw [bare, List.nil_append] at among
  refine ⟨⟨by rw [ids]; exact follows.draw, by rw [ids]; exact follows.used⟩, added, ?_, ?_, ?_,
    fun remembered => ?_⟩
  · rw [appended, kept]
  · exact fun entry member => pending entry (among.mem member)
  · rw [ids]
    exact drawn.sublist (among.map _)
  · rw [← kept] at remembered
    obtain ⟨still, all⟩ := Tables.remembers_commit remembered taken
    refine ⟨still, fun envelope member => ?_⟩
    rw [← carried] at member
    obtain ⟨entry, among, rfl⟩ := List.mem_map.mp member
    exact all entry (List.mem_append_right _ among)

/-- A commit that fails leaves the outbox as it is. -/
theorem commitWith_eq_error {writes : ChangeSet} {envelopes : List Envelope} {error : StoreError}
    (ran : commitWith writes envelopes world = (.error error, after)) :
    world.Follows after ∧ after.store.HoldsAs world.store := by
  have staging : Task.ReadsOnly (envelopes.foldlM ChangeSet.stageEnvelope writes :
      Task Tables StoreError ChangeSet) :=
    .foldlM (fun _ _ => (Task.ReadsOnly.freshId _).bind fun _ =>
      Task.ReadsOnly.now.bind fun _ => .pure _) _ _
  have atomic : Task.Atomic (commitWith writes envelopes) :=
    .bind_of_readsOnly staging fun changes => .commit changes
  obtain ⟨follows, holds⟩ := atomic world
  rw [ran] at follows holds
  exact ⟨follows, holds error rfl⟩

/-- Settling writes the answer down on the row of the entry, and fails only if there is none. -/
theorem settle_apply (entry : OutboxEntry) (result : Except BrokerError Unit)
    (world : World Tables) :
    (Relay.settle entry result world).1 =
        (world.store.mark entry.id (answered result world.now.time)).1.map (fun _ => ()) ∧
      (Relay.settle entry result world).2.store =
        (world.store.mark entry.id (answered result world.now.time)).2 ∧
      (Relay.settle entry result world).2.ids = world.ids := by
  obtain ⟨written, store, ids⟩ := settle_writes entry result world
  rw [writeDown_tables] at written store
  exact ⟨written, store, ids⟩

/-- Settling marks the row of the entry, as published only if the broker took its envelope. -/
theorem settle_marks {entry : OutboxEntry} {result : Except BrokerError Unit}
    {written : Except StoreError Unit} (ran : Relay.settle entry result world = (written, after)) :
    world.Follows after ∧
      Tables.Marked entry.id (result = .ok ()) world.store.outbox after.store.outbox ∧
      after.store.eventIds = world.store.eventIds := by
  obtain rfl : (Relay.settle entry result world).2 = after := congrArg Prod.snd ran
  obtain ⟨-, store, ids⟩ := settle_apply entry result world
  have same (row : OutboxEntry) : (answered result world.now.time row).id = row.id ∧
      (answered result world.now.time row).envelope = row.envelope := by
    cases result <;> exact ⟨rfl, rfl⟩
  have published (row : OutboxEntry)
      (done : (answered result world.now.time row).status = .published) : result = .ok () := by
    cases result with
    | ok _ => rfl
    | error error => cases done
  rw [store]
  exact ⟨⟨by rw [ids], Nat.le_of_eq (by rw [ids])⟩,
    Tables.marked_mark _ same published world.store, Tables.eventIds_mark _ _ _⟩

/-- Pruning drops published rows only, and forgets their events. -/
theorem prune_spares {relay : Relay} {count : Except StoreError Nat}
    (ran : relay.prune world = (count, after)) :
    world.Follows after ∧ (∀ row ∈ after.store.outbox, row ∈ world.store.outbox) ∧
      (∀ row ∈ world.store.outbox, row.status ≠ .published → row ∈ after.store.outbox) ∧
      (Tables.Remembers world.store.outbox world.store.eventIds →
        Tables.Remembers after.store.outbox after.store.eventIds) := by
  obtain rfl : (relay.prune world).2 = after := congrArg Prod.snd ran
  cases kept : relay.retention with
  | none =>
    have idle : (relay.prune world : _ × World Tables) = (.ok 0, world) := by
      unfold Relay.prune
      rw [kept]
      rfl
    rw [idle]
    exact ⟨.refl world, fun _ member => member, fun _ member _ => member, id⟩
  | some retention =>
    have left : (relay.prune world).2.ids = world.ids ∧
        (relay.prune world).2.store = (world.store.prune retention world.now.time).2 := by
      unfold Relay.prune
      rw [kept]
      dsimp only
      rw [Task.bind_of_ok (Task.now_apply world)]
      rcases pruned : world.store.prune retention world.now.time with ⟨count, after⟩
      have dropped : Task.access (Backend.prunePublished retention world.now.time)
          { world with now := world.now.next } =
            (.ok count, { world with now := world.now.next, store := after }) := by
        rw [Task.access_apply]
        simp only [Backend.prunePublished, pruned]
      rw [Task.bind_of_ok dropped]
      by_cases some : 0 < count
      · simp only [some, if_true]
        exact ⟨rfl, rfl⟩
      · simp only [some, if_false]
        exact ⟨rfl, rfl⟩
    rw [left.2]
    refine ⟨⟨by rw [left.1], Nat.le_of_eq (by rw [left.1])⟩, ?_, ?_, ?_⟩
    · exact fun row => (world.store.mem_outbox_prune retention world.now.time row).1
    · exact fun row => (world.store.mem_outbox_prune retention world.now.time row).2
    · exact fun remembered => Tables.remembers_prune remembered retention world.now.time

end Tasks

/-! ## The loop of a pass -/

/-- An entry is published, then settled, and the rest is worked off unless that failed. -/
theorem dispatchAll_cons {σ τ : Type} [Backend σ] [Hosts τ σ]
    {publish : Envelope → StateM τ (Except BrokerError Unit)} {report : RelayReport}
    {entry : OutboxEntry} {rest : List OutboxEntry} {state told after : τ}
    {result : Except BrokerError Unit} {written : Except StoreError Unit}
    (given : publish entry.envelope state = (result, told))
    (settled : Hosts.run (Relay.settle entry result) told = (written, after)) :
    Relay.dispatchAll publish report (entry :: rest) state =
      match written with
      | .error error => (.error error, after)
      | .ok _ => Relay.dispatchAll publish (report.after result) rest after := by
  simp only [Relay.dispatchAll, bind, StateT.bind, given, settled]
  cases written <;> rfl

end Fieldwatch.Delivery
