import Mathlib.Data.Nat.Find
import Fieldwatch.Proofs.Delivery.Marks

/-!
# Draining the outbox

When nothing else touches the outbox, one pass after the other works it off: a pass takes at least
one entry as long as any is still to be published, and every entry that it takes uses up an attempt.
Entries that are refused again and again stand in front only until their attempts run out.
-/
namespace Fieldwatch.Delivery

section Passes

variable {τ : Type} [Hosts τ Tables]

def outboxOf (state : τ) : List OutboxEntry :=
  (Hosts.world state).store.outbox

/-! ## What a pass attempts -/

/-- The attempts of a pass. -/
def attemptsOf (relay : Relay) (publish : Envelope → StateM τ (Except BrokerError Unit))
    (batch : UInt64) (state : τ) : List Attempt :=
  match Hosts.run (relay.fetch batch) state with
  | (.error _, _) => []
  | (.ok entries, after) => attemptsWith publish entries after

variable {publish : Envelope → StateM τ (Except BrokerError Unit)}

theorem run_fetch (relay : Relay) (batch : UInt64) (state : τ) :
    Hosts.run (relay.fetch batch) state =
      (.ok ((Hosts.world state).store.unpublished batch relay.maxAttempts), state) := by
  change (_, Hosts.withWorld (Hosts.world state) state) = _
  rw [Hosts.withWorld_world]

theorem dispatch_noting (relay : Relay) (batch : UInt64) (state : τ)
    (notes : List (Envelope × Except BrokerError Unit)) :
    (relay.dispatch (noting publish) batch (state, notes)).2.2 =
      notes ++ (attemptsOf relay publish batch state).map fun attempt =>
        (attempt.entry.envelope, attempt.result) := by
  simp only [Relay.dispatch, bind, StateT.bind, run_fetch, attemptsOf, attemptsWith,
    List.map_map]
  exact congrArg (fun answer => answer.2.2) (dispatchAll_noting {} _ state notes)

/-! ## What a pass makes of the outbox -/

/-- An entry that has a row is settled, and the answer written down on the first row of its
identifier. -/
theorem settle_of_row {entry : OutboxEntry} {state : τ}
    (there : ∃ row ∈ outboxOf state, row.id = entry.id) (result : Except BrokerError Unit) :
    ∃ after now, Hosts.run (Relay.settle entry result) state = (.ok (), after) ∧
      outboxOf after = Tables.changeFirst entry.id (answered result now) (outboxOf state) := by
  obtain ⟨written, store, -⟩ := settle_apply entry result (Hosts.world state)
  have found : ((Hosts.world state).store.outbox.find? fun row => row.id = entry.id).isSome := by
    rw [List.find?_isSome]
    obtain ⟨row, member, same⟩ := there
    exact ⟨row, member, by simpa using same⟩
  obtain ⟨row, found⟩ := Option.isSome_iff_exists.mp found
  simp only [Tables.mark, found] at written store
  refine ⟨_, (Hosts.world state).now.time, Prod.ext written rfl, ?_⟩
  change (Hosts.world (Hosts.withWorld (Relay.settle entry result (Hosts.world state)).2
    state)).store.outbox = _
  rw [Hosts.world_withWorld, store]
  rfl

section Apart

variable (apart : ∀ envelope state, outboxOf (publish envelope state).2 = outboxOf state)
  {most : UInt32} {before : List OutboxEntry} {made : List Attempt}
  (distinct : (before.map OutboxEntry.id).Nodup)
include apart distinct

/-- Working off rows that are still to be published attempts each of them. -/
theorem dispatchAll_progress {entries : List OutboxEntry} {state : τ} (report : RelayReport)
    (each : (entries.map OutboxEntry.id).Nodup)
    (rows : ∀ entry ∈ entries, entry ∈ outboxOf state ∧ entry.isDeliverable most)
    (progress : Progress most before made (outboxOf state)) :
    ∃ done, (Relay.dispatchAll publish report entries state).1 = .ok done ∧
      done.published + done.failed = report.published + report.failed + entries.length ∧
      (attemptsWith publish entries state).map Attempt.entry = entries ∧
      Progress most before (made ++ attemptsWith publish entries state)
        (outboxOf (Relay.dispatchAll publish report entries state).2) := by
  induction entries generalizing report state made with
  | nil =>
    refine ⟨report, rfl, rfl, rfl, ?_⟩
    rw [attemptsWith, marksWith, List.map_nil, List.append_nil]
    exact progress
  | cons entry rest ih =>
    obtain ⟨there, deliverable⟩ := rows entry List.mem_cons_self
    obtain ⟨alone, each⟩ := List.nodup_cons.mp each
    rcases given : publish entry.envelope state with ⟨result, told⟩
    have untouched : outboxOf told = outboxOf state := by
      rw [← apart entry.envelope state, given]
    rw [← untouched] at there progress
    obtain ⟨after, now, settled, marked⟩ := settle_of_row ⟨entry, there, rfl⟩ result
    rw [dispatchAll_cons given settled, attemptsWith_cons given settled]
    -- the mark leaves the rows of the other entries as they were
    have others : ∀ other ∈ rest, other ∈ outboxOf after ∧ other.isDeliverable most := by
      intro other later
      obtain ⟨row, goesOn⟩ := rows other (List.mem_cons_of_mem _ later)
      refine ⟨?_, goesOn⟩
      have differs : entry.id ≠ other.id := fun same => alone (same ▸ List.mem_map_of_mem later)
      rw [marked, untouched]
      exact Tables.mem_changeFirst row (Ne.symm differs)
    obtain ⟨done, answered, counted, attempted, onward⟩ := ih (report.after result) each others
      (marked ▸ progress.attempt distinct there deliverable result now)
    refine ⟨done, answered, ?_, ?_, ?_⟩
    · have more : (report.after result).published + (report.after result).failed =
          report.published + report.failed + 1 := by
        cases result <;> simp only [RelayReport.after] <;> omega
      rw [counted, more, List.length_cons]
      omega
    · rw [List.map_cons, attempted]
    · rw [List.append_assoc] at onward
      exact onward

/-- A pass attempts the entries that it took, and answers how many they were. -/
theorem dispatch_progress (relay : Relay) (batch : UInt64) {state : τ}
    (progress : Progress relay.maxAttempts before made (outboxOf state)) :
    ∃ report, (relay.dispatch publish batch state).1 = .ok report ∧
      (report.isIdle = true ↔
        (Hosts.world state).store.unpublished batch relay.maxAttempts = []) ∧
      (attemptsOf relay publish batch state).map Attempt.entry =
        (Hosts.world state).store.unpublished batch relay.maxAttempts ∧
      Progress relay.maxAttempts before (made ++ attemptsOf relay publish batch state)
        (outboxOf (relay.dispatch publish batch state).2) := by
  have still : ((outboxOf state).map OutboxEntry.id).Nodup := progress.ids ▸ distinct
  have rows : ∀ entry ∈ (Hosts.world state).store.unpublished batch relay.maxAttempts,
      entry ∈ outboxOf state ∧ entry.isDeliverable relay.maxAttempts := by
    intro entry fetched
    exact ⟨Tables.mem_of_mem_unpublished fetched, Tables.isDeliverable_of_mem_unpublished fetched⟩
  obtain ⟨report, answered, counted, attempted, onward⟩ :=
    dispatchAll_progress apart distinct {} (Tables.nodup_unpublished still _ _) rows progress
  simp only [Relay.dispatch, bind, StateT.bind, run_fetch, attemptsOf]
  refine ⟨report, answered, ?_, attempted, onward⟩
  rw [← List.length_eq_zero_iff, RelayReport.isIdle]
  simp only [Nat.zero_add, Bool.and_eq_true, decide_eq_true_eq] at counted ⊢
  omega

end Apart

theorem dispatch_of_nothing {relay : Relay} {batch : UInt64} {state : τ}
    (nothing : (Hosts.world state).store.unpublished batch relay.maxAttempts = []) :
    relay.dispatch publish batch state = (.ok {}, state) := by
  simp only [Relay.dispatch, bind, StateT.bind, run_fetch, nothing]
  rfl

/-! ## One pass after the other -/

section Runs

variable {relay : Relay} {batch : UInt64} {state : Nat → τ}

/-- The attempts of the passes before one. -/
def attemptsBefore (relay : Relay) (publish : Envelope → StateM τ (Except BrokerError Unit))
    (batch : UInt64) (state : Nat → τ) : Nat → List Attempt
  | 0 => []
  | count + 1 =>
    attemptsBefore relay publish batch state count ++ attemptsOf relay publish batch (state count)

variable (runs : ∀ count, outboxOf (state (count + 1)) =
  outboxOf (relay.dispatch publish batch (state count)).2)
include runs

/-- Once there is nothing left to attempt, nothing is attempted any more. -/
theorem settled_from {last : Nat} (some : 0 < batch)
    (done : backlog relay.maxAttempts (outboxOf (state last)) = 0) {count : Nat}
    (after : last ≤ count) :
    outboxOf (state count) = outboxOf (state last) ∧
      attemptsBefore relay publish batch state count =
        attemptsBefore relay publish batch state last := by
  induction count, after using Nat.le_induction with
  | base => exact ⟨rfl, rfl⟩
  | succ count after ih =>
    obtain ⟨outbox, attempts⟩ := ih
    rw [← outbox] at done
    have idle : (Hosts.world (state count)).store.unpublished batch relay.maxAttempts = [] :=
      (Tables.unpublished_eq_nil_iff some).mpr done
    constructor
    · rw [runs, dispatch_of_nothing idle, outbox]
    · rw [attemptsBefore, attempts, attemptsOf, run_fetch, idle]
      exact List.append_nil _

variable (apart : ∀ envelope state, outboxOf (publish envelope state).2 = outboxOf state)
  (distinct : ((outboxOf (state 0)).map OutboxEntry.id).Nodup)
include apart distinct

theorem progress_before (count : Nat) :
    Progress relay.maxAttempts (outboxOf (state 0)) (attemptsBefore relay publish batch state count)
      (outboxOf (state count)) := by
  induction count with
  | zero => exact .refl _ _
  | succ count ih =>
    obtain ⟨report, -, -, -, onward⟩ := dispatch_progress apart distinct relay batch ih
    rw [attemptsBefore, runs]
    exact onward

/-- Every pass lessens the backlog by one at least, as long as there is one. -/
theorem backlog_pass (some : 0 < batch) (count : Nat) :
    backlog relay.maxAttempts (outboxOf (state count)) = 0 ∨
      count + backlog relay.maxAttempts (outboxOf (state count)) ≤
        backlog relay.maxAttempts (outboxOf (state 0)) := by
  induction count with
  | zero => right; omega
  | succ count ih =>
    have still : ((outboxOf (state count)).map OutboxEntry.id).Nodup :=
      (progress_before runs apart distinct count).ids ▸ distinct
    obtain ⟨report, -, -, attempted, onward⟩ :=
      dispatch_progress apart still relay batch (.refl _ _)
    rw [List.nil_append, ← runs] at onward
    have used := onward.used
    by_cases done : backlog relay.maxAttempts (outboxOf (state count)) = 0
    · left
      omega
    · right
      have taken : (Hosts.world (state count)).store.unpublished batch relay.maxAttempts ≠ [] :=
        fun nothing => done ((Tables.unpublished_eq_nil_iff some).mp nothing)
      rw [← attempted, ne_eq, List.map_eq_nil_iff, ← List.length_eq_zero_iff] at taken
      omega

/-- When nothing else touches the outbox, passes that may take entries work it off: after no more of
them than there are attempts left, a pass is idle, and so is every later one. Then an entry is
published or out of attempts, and each that was to be published has been attempted, however often
those before it were refused. No entry was taken twice or attempted more often than it might be;
what is attempted is what the publisher is handed. -/
theorem outbox_drains (some : 0 < batch) :
    ∃ last ≤ backlog relay.maxAttempts (outboxOf (state 0)),
      (∀ count, ∃ report, (relay.dispatch publish batch (state count)).1 = .ok report ∧
        (report.isIdle = true ↔ last ≤ count)) ∧
      (∀ count, (relay.dispatch (noting publish) batch (state count, [])).2.2 =
        (attemptsOf relay publish batch (state count)).map fun attempt =>
          (attempt.entry.envelope, attempt.result)) ∧
      (∀ count, Progress relay.maxAttempts (outboxOf (state 0))
        (attemptsBefore relay publish batch state count) (outboxOf (state count))) ∧
      (∀ count, last ≤ count → outboxOf (state count) = outboxOf (state last) ∧
        attemptsBefore relay publish batch state count =
          attemptsBefore relay publish batch state last) ∧
      (∀ entry ∈ outboxOf (state last), entry.status ≠ .published →
        relay.maxAttempts ≤ entry.attempts) ∧
      ∀ entry ∈ outboxOf (state 0), entry.isDeliverable relay.maxAttempts →
        0 < tries (attemptsBefore relay publish batch state last) entry.id := by
  have progress := progress_before runs apart distinct
  have runsOut : backlog relay.maxAttempts
      (outboxOf (state (backlog relay.maxAttempts (outboxOf (state 0))))) = 0 := by
    have := backlog_pass runs apart distinct some (backlog relay.maxAttempts (outboxOf (state 0)))
    omega
  have someday : ∃ count, backlog relay.maxAttempts (outboxOf (state count)) = 0 := ⟨_, runsOut⟩
  -- the first pass that finds nothing to attempt; each before it found something
  obtain ⟨last, done, first⟩ := Nat.findX someday
  have settled {count : Nat} (after : last ≤ count) := settled_from runs some done after
  have nothing := backlog_eq_zero_iff.mp done
  refine ⟨last, ?_, ?_, fun count => dispatch_noting relay batch (state count) [], progress,
    fun count => settled, ?_, ?_⟩
  · by_contra late
    exact first _ (not_le.mp late) runsOut
  · intro count
    obtain ⟨report, answered, idle, -⟩ :=
      dispatch_progress apart distinct relay batch (progress count)
    refine ⟨report, answered, ?_⟩
    rw [idle, Tables.unpublished_eq_nil_iff some]
    constructor
    · intro gone
      by_contra early
      exact first count (not_le.mp early) gone
    · intro after
      change backlog relay.maxAttempts (outboxOf (state count)) = 0
      rw [(settled after).1]
      exact done
  · intro entry there unpublished
    by_contra few
    have deliverable := isDeliverable_iff.mpr
      ⟨unpublished, UInt32.lt_iff_toNat_lt.mp (UInt32.not_le.mp few)⟩
    rw [nothing entry there] at deliverable
    cases deliverable
  · intro entry there deliverable
    obtain ⟨row, kept, advanced⟩ := (progress last).row there
    obtain ⟨unpublished, few⟩ := isDeliverable_iff.mp deliverable
    by_contra never
    -- a row that was never attempted is still to be published
    have taken := takes_le_tries (attemptsBefore relay publish batch state last) entry.id
    have counted := advanced.attempts_eq
    have still : row.isDeliverable relay.maxAttempts = true := by
      refine isDeliverable_iff.mpr ⟨?_, by omega⟩
      rw [ne_eq, advanced.published_iff, not_or]
      exact ⟨unpublished, by omega⟩
    rw [nothing row kept] at still
    cases still

end Runs
end Passes

/-- An entry that was refused once stands before a new one. -/
def crowdedStore : World Tables where
  now := .still .epoch
  ids := ⟨fun count => BitVec.ofNat 128 count, 3⟩
  store := {
    outbox :=
      [⟨⟨1⟩, ⟨⟨5⟩, "AlertRaised", 1, ⟨6⟩, ⟨9⟩, "EvaluateAlerts", .epoch, .null⟩, .failed, .epoch,
          some .epoch, 1, some "refused"⟩,
        .new ⟨2⟩ ⟨⟨7⟩, "SensorIngested", 1, ⟨8⟩, ⟨9⟩, "IngestReading", .epoch, .null⟩ .epoch]
    eventIds := [⟨5⟩, ⟨7⟩] }
  counters := {}

/-- A publisher that refuses every alert. -/
def readingsOnly (envelope : Envelope) : StateM (World Tables) (Except BrokerError Unit) :=
  fun world =>
    (if envelope.source = "IngestReading" then .ok () else .error .closed, world)

/-- The store after passes of a relay that takes one entry at a time. -/
def afterPasses : Nat → World Tables
  | 0 => crowdedStore
  | count + 1 => (Relay.dispatch ⟨3, none⟩ readingsOnly 1 (afterPasses count)).2

/-- After five passes at most the alert is given up, and the reading was attempted. -/
theorem crowdedStore_drains :
    ∃ last ≤ 5, (∀ entry ∈ outboxOf (afterPasses last), entry.status ≠ .published →
        3 ≤ entry.attempts) ∧
      0 < tries (attemptsBefore ⟨3, none⟩ readingsOnly 1 afterPasses last) ⟨2⟩ := by
  obtain ⟨last, soon, -, -, -, -, rest, attempted⟩ :=
    @outbox_drains (World Tables) _ readingsOnly ⟨3, none⟩ 1 afterPasses (fun _ => rfl)
      (fun _ _ => rfl) (by decide) (by decide)
  exact ⟨last, soon, rest, attempted _ (List.mem_cons_of_mem _ List.mem_cons_self) rfl⟩

end Fieldwatch.Delivery
