import Fieldwatch.Proofs.Delivery.Draining
import Fieldwatch.Proofs.Delivery.Queue
import Fieldwatch.Rehearsal.Faulty

/-!
# The books of a pass

A pass takes the front of the queue, publishes each entry once, in order, and writes each answer
down on the row of its entry and on no other. Where the store may fail, the pass ends at the first
mark that is refused, and what was written down before that stays.
-/
namespace Fieldwatch.Delivery

/-! ## Stores that may fail -/

section Stores

variable {σ α : Type} {mayFail : Prop} {view : σ → Tables}

/-- Whether a call does what it does on the tables of a store. If the store may fail, it may also
fail and leave the tables as they are. -/
def Mirrors (mayFail : Prop) (view : σ → Tables) (call : Access σ α) (plain : Access Tables α) :
    Prop :=
  ∀ store, (call store).1 = (plain (view store)).1 ∧
      view (call store).2 = (plain (view store)).2 ∨
    mayFail ∧ (∃ error, (call store).1 = .error error) ∧ view (call store).2 = view store

/-- Whether a store keeps its outbox in tables. -/
structure Keeps [Backend σ] (mayFail : Prop) (view : σ → Tables) : Prop where
  fetch : ∀ limit most, Mirrors mayFail view (Backend.fetchUnpublished limit most)
    (Backend.fetchUnpublished limit most)
  markPublished : ∀ id now, Mirrors mayFail view (Backend.markPublished id now)
    (Backend.markPublished id now)
  markFailed : ∀ id reason now, Mirrors mayFail view (Backend.markFailed id reason now)
    (Backend.markFailed id reason now)

theorem Mirrors.refl (call : Access Tables α) : Mirrors False id call call :=
  fun _ => .inl ⟨rfl, rfl⟩

/-- Tables keep their own outbox. -/
theorem keeps_tables : Keeps False (id : Tables → Tables) :=
  ⟨fun _ _ => .refl _, fun _ _ => .refl _, fun _ _ _ => .refl _⟩

theorem Mirrors.guarded {call : Access σ α} {plain : Access Tables α}
    (mirrors : Mirrors mayFail view call plain) (kind : Rehearsal.StoreCall) :
    Mirrors True (view ∘ Rehearsal.Faulty.store) (Rehearsal.Faulty.guarded kind call) plain := by
  intro faulty
  unfold Rehearsal.Faulty.guarded
  cases faulty.failures kind with
  | zero =>
    rcases mirrors faulty.store with same | ⟨-, failed⟩
    · exact .inl same
    · exact .inr ⟨trivial, failed⟩
  | succ times => exact .inr ⟨trivial, ⟨_, rfl⟩, rfl⟩

/-- A store that is made to fail still keeps its outbox. -/
theorem Keeps.faulty [Backend σ] (keeps : Keeps mayFail view) :
    Keeps True (view ∘ Rehearsal.Faulty.store) :=
  ⟨fun limit most => (keeps.fetch limit most).guarded _,
    fun id now => (keeps.markPublished id now).guarded _,
    fun id reason now => (keeps.markFailed id reason now).guarded _⟩

variable [Backend σ]

theorem Keeps.writeDown (keeps : Keeps mayFail view) (id : EntryId)
    (result : Except BrokerError Unit) (now : Instant) :
    Mirrors mayFail view (writeDown id result now) (writeDown id result now) := by
  cases result with
  | ok _ => exact keeps.markPublished id now
  | error error =>
    intro store
    rcases keeps.markFailed id error.message now store with ⟨same, left⟩ | ⟨may, failed, left⟩
    · exact .inl ⟨congrArg (Except.map fun _ => ()) same, left⟩
    · obtain ⟨fault, failed⟩ := failed
      exact .inr ⟨may, ⟨fault, congrArg (Except.map fun _ => ()) failed⟩, left⟩

end Stores

section Passes

variable {σ τ : Type} [Backend σ] [Hosts τ σ] {mayFail : Prop} {view : σ → Tables}

/-- The rows of the outbox that a store keeps. -/
def rowsOf (view : σ → Tables) (state : τ) : List OutboxEntry :=
  (view (Hosts.world state).store).outbox

/-- An answer is written down on the first row of the identifier of its entry, if there is one, or
the store fails and leaves the rows as they are. -/
theorem Keeps.settle (keeps : Keeps mayFail view) {entry : OutboxEntry}
    {result : Except BrokerError Unit} {state after : τ} {written : Except StoreError Unit}
    (settled : Hosts.run (Relay.settle entry result) state = (written, after))
    (there : ∃ row ∈ rowsOf view state, row.id = entry.id) :
    (written = .ok () ∧ ∃ now, rowsOf view after =
        Tables.changeFirst entry.id (answered result now) (rowsOf view state)) ∨
      mayFail ∧ (∃ error, written = .error error) ∧ rowsOf view after = rowsOf view state := by
  obtain ⟨said, store, -⟩ := settle_writes entry result (Hosts.world state)
  obtain rfl : (Relay.settle entry result (Hosts.world state)).1 = written :=
    congrArg Prod.fst settled
  have left : rowsOf view after =
      (view (Relay.settle entry result (Hosts.world state)).2.store).outbox := by
    obtain rfl : Hosts.withWorld (Relay.settle entry result (Hosts.world state)).2 state = after :=
      congrArg Prod.snd settled
    rw [rowsOf, Hosts.world_withWorld]
  rw [left, said, store]
  have found : ((view (Hosts.world state).store).outbox.find? fun row =>
      row.id = entry.id).isSome := by
    rw [List.find?_isSome]
    obtain ⟨row, member, same⟩ := there
    exact ⟨row, member, by simpa using same⟩
  obtain ⟨row, found⟩ := Option.isSome_iff_exists.mp found
  rcases keeps.writeDown entry.id result (Hosts.world state).now.time (Hosts.world state).store
    with ⟨same, marked⟩ | failed
  · simp only [writeDown_tables, Tables.mark, found] at same marked
    exact .inl ⟨same, _, by rw [marked]; rfl⟩
  · obtain ⟨may, error, same⟩ := failed
    exact .inr ⟨may, error, by rw [same]; rfl⟩

/-! ## Rows with answers -/

/-- Whether a row is what an answer of the publisher makes of an earlier one: one more attempt is
counted, and the row is published, or failed for the reason that was given. -/
structure Noted (result : Except BrokerError Unit) (old new : OutboxEntry) : Prop where
  id_eq : new.id = old.id
  envelope_eq : new.envelope = old.envelope
  createdAt_eq : new.createdAt = old.createdAt
  processed : new.processedAt.isSome
  attempts_eq : new.attempts.toNat = old.attempts.toNat + 1
  outcome : match result with
    | .ok _ => new.status = .published ∧ new.lastError = old.lastError
    | .error error => new.status = .failed ∧ new.lastError = some error.message

theorem noted_answered {most : UInt32} {entry : OutboxEntry}
    (deliverable : entry.isDeliverable most = true) (result : Except BrokerError Unit)
    (now : Instant) : Noted result entry (answered result now entry) := by
  have counted := toNat_attempts_answered deliverable result now
  cases result <;> exact ⟨rfl, rfl, rfl, rfl, counted, rfl, rfl⟩

/-- Whether the answers in marks, and nothing else, are written down on a row. -/
structure Booked (marks : List Mark) (old new : OutboxEntry) : Prop where
  noted : ∀ mark ∈ marks, mark.entry.id = old.id → Noted mark.result old new
  untouched : (∀ mark ∈ marks, mark.entry.id ≠ old.id) → new = old

namespace Booked

variable {marks : List Mark} {mark : Mark} {old new : OutboxEntry}

theorem refl (row : OutboxEntry) : Booked [] row row :=
  ⟨by rintro _ ⟨⟩, fun _ => rfl⟩

theorem id_eq (booked : Booked marks old new) : new.id = old.id := by
  by_cases marked : ∃ mark ∈ marks, mark.entry.id = old.id
  · obtain ⟨mark, member, same⟩ := marked
    exact (booked.noted mark member same).id_eq
  · rw [booked.untouched fun mark member same => marked ⟨mark, member, same⟩]

theorem other (booked : Booked marks old new) (apart : mark.entry.id ≠ old.id) :
    Booked (marks ++ [mark]) old new := by
  constructor
  · intro given member same
    rcases List.mem_append.mp member with earlier | last
    · exact booked.noted given earlier same
    · obtain rfl := List.mem_singleton.mp last
      exact absurd same apart
  · exact fun none => booked.untouched fun given member =>
      none given (List.mem_append_left _ member)

end Booked

section Rows

variable {marks : List Mark} {before outbox : List OutboxEntry} {entry : OutboxEntry}
  {most : UInt32}

theorem ids_of_booked (rows : List.Forall₂ (Booked marks) before outbox) :
    outbox.map OutboxEntry.id = before.map OutboxEntry.id := by
  induction rows with
  | nil => rfl
  | cons here rows ih => rw [List.map_cons, List.map_cons, here.id_eq, ih]

theorem mem_of_booked (rows : List.Forall₂ (Booked marks) before outbox)
    (unmarked : ∀ mark ∈ marks, mark.entry.id ≠ entry.id) (there : entry ∈ before) :
    entry ∈ outbox := by
  induction rows with
  | nil => cases there
  | cons here rows ih =>
    rcases List.mem_cons.mp there with rfl | later
    · rw [here.untouched unmarked]
      exact List.mem_cons_self
    · exact List.mem_cons_of_mem _ (ih later)

/-- An answer is written down on the row of its entry beside those that were written down on
others. -/
theorem booked_changeFirst (rows : List.Forall₂ (Booked marks) before outbox)
    (distinct : (before.map OutboxEntry.id).Nodup) (there : entry ∈ before)
    (unmarked : ∀ mark ∈ marks, mark.entry.id ≠ entry.id)
    (deliverable : entry.isDeliverable most = true) (result : Except BrokerError Unit)
    (written : Except StoreError Unit) (now : Instant) :
    List.Forall₂ (Booked (marks ++ [⟨⟨entry, result⟩, written⟩])) before
      (Tables.changeFirst entry.id (answered result now) outbox) := by
  have still : (outbox.map OutboxEntry.id).Nodup := ids_of_booked rows ▸ distinct
  refine forall₂_changeFirst rows distinct (fun old new booked => booked.id_eq) ?_ ?_
  · intro old new member booked same
    obtain rfl : new = old := booked.untouched (same ▸ unmarked)
    obtain rfl : new = entry :=
      List.inj_on_of_nodup_map still member (mem_of_booked rows unmarked there) same
    refine ⟨fun mark given same => ?_, fun none => ?_⟩
    · rcases List.mem_append.mp given with earlier | last
      · exact absurd same (unmarked mark earlier)
      · obtain rfl := List.mem_singleton.mp last
        exact noted_answered deliverable result now
    · exact absurd rfl (none _ (List.mem_append_right _ (List.mem_singleton_self _)))
  · exact fun old new booked other => booked.other (Ne.symm other)

end Rows

/-! ## How a pass ends -/

/-- The report of a pass that was let make its marks. -/
def reportOf (marks : List Mark) : RelayReport where
  published := marks.countP fun mark => mark.result.isOk
  failed := marks.countP fun mark => !mark.result.isOk

theorem reportOf_append_singleton (marks : List Mark) (mark : Mark) :
    reportOf (marks ++ [mark]) = (reportOf marks).after mark.result := by
  obtain ⟨⟨entry, result⟩, written⟩ := mark
  cases result <;>
    simp [reportOf, RelayReport.after, List.countP_append, Except.isOk, Except.toBool]

/-- How a pass over the entries that it took ends: with what rows, marks and answer. -/
inductive Ends (mayFail : Prop) (before after taken : List OutboxEntry) :
    List Mark → Except StoreError RelayReport → Prop
  /-- Every answer was written down. -/
  | done {marks : List Mark} (entries : marks.map (·.entry) = taken)
    (written : ∀ mark ∈ marks, mark.written = .ok ())
    (rows : List.Forall₂ (Booked marks) before after) :
    Ends mayFail before after taken marks (.ok (reportOf marks))
  /-- The store failed when the last of the answers was to be written down. -/
  | stopped {earlier : List Mark} {last : Mark} {rest : List OutboxEntry} {error : StoreError}
    (failed : mayFail) (entries : earlier.map (·.entry) ++ last.entry :: rest = taken)
    (written : ∀ mark ∈ earlier, mark.written = .ok ()) (refused : last.written = .error error)
    (rows : List.Forall₂ (Booked earlier) before after) :
    Ends mayFail before after taken (earlier ++ [last]) (.error error)

section Ending

variable {publish : Envelope → StateM τ (Except BrokerError Unit)} {before : List OutboxEntry}
  {most : UInt32} (keeps : Keeps mayFail view)
  (apart : ∀ envelope state, rowsOf view (publish envelope state).2 = rowsOf view state)
  (distinct : (before.map OutboxEntry.id).Nodup)
include keeps apart distinct

/-- Working off entries goes on from the marks that were made before. -/
theorem dispatchAll_ends {made : List Mark} {entries : List OutboxEntry} {state : τ}
    (rows : List.Forall₂ (Booked made) before (rowsOf view state))
    (written : ∀ mark ∈ made, mark.written = .ok ())
    (each : ((made.map (·.entry) ++ entries).map OutboxEntry.id).Nodup)
    (still : ∀ entry ∈ entries, entry ∈ before ∧ entry.isDeliverable most = true) :
    Ends mayFail before
      (rowsOf view (Relay.dispatchAll publish (reportOf made) entries state).2)
      (made.map (·.entry) ++ entries) (made ++ marksWith publish entries state)
      (Relay.dispatchAll publish (reportOf made) entries state).1 := by
  induction entries generalizing made state with
  | nil =>
    rw [marksWith, List.append_nil, List.append_nil]
    exact .done rfl written rows
  | cons entry rest ih =>
    obtain ⟨there, deliverable⟩ := still entry List.mem_cons_self
    have unmarked : ∀ mark ∈ made, mark.entry.id ≠ entry.id := by
      intro mark member same
      rw [List.map_append, List.nodup_append] at each
      exact each.2.2 _ (List.mem_map_of_mem (List.mem_map_of_mem member)) _
        List.mem_cons_self same
    rcases given : publish entry.envelope state with ⟨result, told⟩
    rcases settled : Hosts.run (Relay.settle entry result) told with ⟨answer, after⟩
    have untouched : rowsOf view told = rowsOf view state := by
      rw [← apart entry.envelope state, given]
    rw [← untouched] at rows
    rw [dispatchAll_cons given settled, marksWith_cons given settled]
    rcases keeps.settle settled ⟨entry, mem_of_booked rows unmarked there, rfl⟩ with
      ⟨rfl, now, marked⟩ | ⟨failed, ⟨error, rfl⟩, left⟩
    · have writtenToo : ∀ mark ∈ made ++ [⟨⟨entry, result⟩, .ok ()⟩], mark.written = .ok () := by
        intro mark member
        rcases List.mem_append.mp member with earlier | last
        · exact written mark earlier
        · rw [List.mem_singleton.mp last]
      have rowsToo : List.Forall₂ (Booked (made ++ [⟨⟨entry, result⟩, .ok ()⟩])) before
          (rowsOf view after) := by
        rw [marked]
        exact booked_changeFirst rows distinct there unmarked deliverable result (.ok ()) now
      have onward := ih rowsToo writtenToo (by simpa using each)
        fun other later => still other (List.mem_cons_of_mem _ later)
      rw [reportOf_append_singleton, List.append_assoc, List.map_append, List.append_assoc]
        at onward
      exact onward
    · exact .stopped failed rfl written rfl (left ▸ rows)

end Ending

/-- A fetch answers with what the tables hold, or the store fails; it changes no row. -/
theorem Keeps.fetch_cases (keeps : Keeps mayFail view) (relay : Relay) (batch : UInt64)
    (state : τ) : ∃ after, rowsOf view after = rowsOf view state ∧
      (Hosts.run (relay.fetch batch) state =
          (.ok ((view (Hosts.world state).store).unpublished batch relay.maxAttempts), after) ∨
        mayFail ∧ ∃ error, Hosts.run (relay.fetch batch) state = (.error error, after)) := by
  rcases fetched : Hosts.run (relay.fetch batch) state with ⟨answer, after⟩
  have said : (Backend.fetchUnpublished batch relay.maxAttempts (Hosts.world state).store).1 =
      answer := congrArg Prod.fst fetched
  have rows : rowsOf view after =
      (view (Backend.fetchUnpublished batch relay.maxAttempts
        (Hosts.world state).store).2).outbox := by
    obtain rfl : (Hosts.run (relay.fetch batch) state).2 = after := congrArg Prod.snd fetched
    change (view (Hosts.world (Hosts.withWorld _ state)).store).outbox = _
    rw [Hosts.world_withWorld]
    rfl
  refine ⟨after, ?_⟩
  rw [rows, ← said]
  rcases keeps.fetch batch relay.maxAttempts (Hosts.world state).store with
    ⟨same, left⟩ | ⟨failed, ⟨error, refused⟩, left⟩
  · rw [left, same]
    exact ⟨rfl, .inl rfl⟩
  · rw [left, refused]
    exact ⟨rfl, .inr ⟨failed, error, rfl⟩⟩

/-- A publisher that takes notes changes nothing of a fetch. -/
theorem run_fetch_noting {relay : Relay} {batch : UInt64} {state after : τ}
    {answer : Except StoreError (List OutboxEntry)}
    (fetched : Hosts.run (relay.fetch batch) state = (answer, after)) :
    Hosts.run (relay.fetch batch) (state, ([] : List (Envelope × Except BrokerError Unit))) =
      (answer, after, []) := by
  change ((Hosts.run (relay.fetch batch) state).1, (Hosts.run (relay.fetch batch) state).2, _) = _
  rw [fetched]

/-- A pass takes the front of the queue, hands each of its envelopes to the publisher once, in
order, and keeps books: each answer is written down on the row of its entry, all other rows stay as
they are, and the report counts the answers. Where the store fails, its error is answered, and only
what was written down before is kept. -/
theorem pass_keeps_books (keeps : Keeps mayFail view)
    {publish : Envelope → StateM τ (Except BrokerError Unit)}
    (apart : ∀ envelope state, rowsOf view (publish envelope state).2 = rowsOf view state)
    {state : τ} (distinct : ((rowsOf view state).map OutboxEntry.id).Nodup) (relay : Relay)
    (batch : UInt64) :
    ∃ queue after, IsQueue (rowsOf view state) relay.maxAttempts queue ∧
      rowsOf view after = rowsOf view state ∧
      (Hosts.run (relay.fetch batch) state = (.ok (queue.take batch.toNat), after) ∧
          (relay.dispatch (noting publish) batch (state, [])).2.2 =
            (marksWith publish (queue.take batch.toNat) after).map
              (fun mark => (mark.entry.envelope, mark.result)) ∧
          Ends mayFail (rowsOf view state) (rowsOf view (relay.dispatch publish batch state).2)
            (queue.take batch.toNat) (marksWith publish (queue.take batch.toNat) after)
            (relay.dispatch publish batch state).1 ∨
        mayFail ∧ ∃ error, Hosts.run (relay.fetch batch) state = (.error error, after) ∧
          (relay.dispatch (noting publish) batch (state, [])).2.2 = [] ∧
          relay.dispatch publish batch state = (.error error, after)) := by
  obtain ⟨queue, isQueue, front⟩ :=
    (view (Hosts.world state).store).unpublished_front relay.maxAttempts
  obtain ⟨after, rows, answered⟩ := keeps.fetch_cases relay batch state
  refine ⟨queue, after, isQueue, rows, ?_⟩
  rcases answered with fetched | ⟨failed, error, fetched⟩
  · have booked : List.Forall₂ (Booked []) (rowsOf view state) (rowsOf view after) := by
      rw [rows]
      exact List.forall₂_same.mpr fun row _ => .refl row
    have each : ((queue.take batch.toNat).map OutboxEntry.id).Nodup := by
      rw [← front batch]
      exact Tables.nodup_unpublished distinct batch relay.maxAttempts
    have among : ∀ entry ∈ queue.take batch.toNat,
        entry ∈ rowsOf view state ∧ entry.isDeliverable relay.maxAttempts = true := by
      intro entry member
      rw [← front batch] at member
      exact ⟨Tables.mem_of_mem_unpublished member, Tables.isDeliverable_of_mem_unpublished member⟩
    have ends := dispatchAll_ends keeps apart distinct booked (by rintro _ ⟨⟩) each among
    rw [front batch] at fetched
    refine .inl ⟨fetched, ?_, ?_⟩
    · simp only [Relay.dispatch, bind, StateT.bind, run_fetch_noting fetched]
      exact congrArg (fun answer => answer.2.2) (dispatchAll_noting {} _ after [])
    · simp only [Relay.dispatch, bind, StateT.bind, fetched]
      exact ends
  · refine .inr ⟨failed, error, fetched, ?_, ?_⟩
    · simp only [Relay.dispatch, bind, StateT.bind, run_fetch_noting fetched]
      rfl
    · simp only [Relay.dispatch, bind, StateT.bind, fetched]
      rfl

end Passes

/-- A store that fails when an entry is to be marked as published for the first time. -/
def brittleStore : World (Rehearsal.Faulty Tables) where
  now := crowdedStore.now
  ids := crowdedStore.ids
  store := ({ store := crowdedStore.store } : Rehearsal.Faulty Tables).fail .markPublished 1
  counters := {}

/-- A publisher that refuses alerts. -/
def withoutAlerts {τ : Type} (envelope : Envelope) : StateM τ (Except BrokerError Unit) :=
  fun state => (if envelope.eventType = "AlertRaised" then .error .closed else .ok (), state)

/-- The alert is refused, which is written down; the reading is taken, which the store does not let
be written down. -/
theorem brittleStore_keeps_books : ∃ alert reading,
    crowdedStore.store.outbox = [alert, reading] ∧
      (Relay.dispatch ⟨3, none⟩ (noting withoutAlerts) 5 (brittleStore, [])).2.2 =
        [(alert.envelope, .error .closed), (reading.envelope, .ok ())] ∧
      Ends True [alert, reading]
        (rowsOf Rehearsal.Faulty.store (Relay.dispatch ⟨3, none⟩ withoutAlerts 5 brittleStore).2)
        [alert, reading]
        [⟨⟨alert, .error .closed⟩, .ok ()⟩,
          ⟨⟨reading, .ok ()⟩, .error (.unavailable "injected mark_published failure")⟩]
        (.error (.unavailable "injected mark_published failure")) := by
  have apart (envelope : Envelope) (world : World (Rehearsal.Faulty Tables)) :
      rowsOf Rehearsal.Faulty.store (withoutAlerts envelope world).2 =
        rowsOf Rehearsal.Faulty.store world := rfl
  have distinct : ((rowsOf Rehearsal.Faulty.store brittleStore).map OutboxEntry.id).Nodup := by
    decide
  have front : brittleStore.store.store.unpublished 5 3 = crowdedStore.store.outbox := by
    have deliverable : crowdedStore.store.outbox.filter (fun entry => entry.isDeliverable 3) =
        crowdedStore.store.outbox := rfl
    have ordered : crowdedStore.store.outbox.Pairwise fun first later =>
        decide (first.createdAt ≤ later.createdAt) = true := by decide
    change ((crowdedStore.store.outbox.filter _).mergeSort _).take _ = _
    rw [deliverable, List.mergeSort_of_pairwise ordered]
    rfl
  have fetched : Hosts.run (Relay.fetch ⟨3, none⟩ 5) brittleStore =
      (.ok crowdedStore.store.outbox, brittleStore) :=
    congrArg (fun taken => (Except.ok taken, brittleStore)) front
  have answer : (Relay.dispatch ⟨3, none⟩ withoutAlerts 5 brittleStore).1 =
      .error (.unavailable "injected mark_published failure") := by
    change (Relay.dispatchAll withoutAlerts {} (brittleStore.store.store.unpublished 5 3)
      brittleStore).1 = _
    rw [front]
    rfl
  obtain ⟨queue, after, -, -, ⟨same, told, ends⟩ | ⟨-, error, same, -⟩⟩ :=
    pass_keeps_books keeps_tables.faulty apart distinct ⟨3, none⟩ 5
  · obtain ⟨taken, rfl⟩ := Prod.mk.inj (same.symm.trans fetched)
    rw [Except.ok.inj taken] at told ends
    rw [answer] at ends
    exact ⟨_, _, rfl, told, ends⟩
  · cases same.symm.trans fetched

end Fieldwatch.Delivery
