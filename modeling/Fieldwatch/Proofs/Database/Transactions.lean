import Mathlib.Algebra.GroupWithZero.Nat
import Fieldwatch.Proofs.Database.Overheard
import Fieldwatch.Rehearsal.Peer

/-!
# A commit is one transaction

Whatever a server answers, a commit opens one transaction, sends the staged writes one after the
other in a fixed order and stops at the first that fails. It asks for the transaction to be made
lasting exactly when all of them took effect, and answers exactly when that was granted.
-/
namespace Fieldwatch.Database

variable {γ : Type} {α β : Type}

/-! ## Staged writes -/

inductive StagedWrite
  | reading (record : ReadingRecord)
  | alert (save : AlertWrite)
  | sensor (write : SnapshotWrite SensorSnapshot .sensor)
  | owner (write : SnapshotWrite OwnerSnapshot .owner)
  | entry (added : OutboxEntry)

namespace StagedWrite

def statement : StagedWrite → Statement
  | reading record => insert record
  | alert save => saveAlert save
  | sensor write => writeSnapshot write
  | owner write => writeSnapshot write
  | entry added => insertEntry added

/-- Whether a write took effect by its reply. Only an alert must have been written. -/
def Took : StagedWrite → Reply → Prop
  | alert _, reply => reply.affected ≠ 0
  | _, _ => True

/-- How many writes a receipt counts for a write: one for an alert, none for an outbox entry, and
as many as rows were written for any other. -/
def writes (reply : Reply) : StagedWrite → Nat
  | alert _ => 1
  | entry _ => 0
  | _ => reply.affected

/-- How many outbox entries a receipt counts for a write. -/
def entries (reply : Reply) : StagedWrite → Nat
  | entry _ => reply.affected
  | _ => 0

end StagedWrite

open StagedWrite in
/-- The writes of a change set in the order in which they are sent. -/
def stagedWrites (changes : ChangeSet) : List StagedWrite :=
  changes.readings.map reading ++ changes.alerts.map alert ++ changes.sensors.map sensor
    ++ changes.owners.map owner ++ changes.outbox.map entry

/-- What a commit answers that made some writes, each with the reply that it got. -/
def receiptOf (done : List (StagedWrite × Reply)) : CommitReceipt where
  writes := (done.map fun (write, reply) => write.writes reply).sum
  outboxEntries := (done.map fun (write, reply) => write.entries reply).sum

theorem receiptOf_append (first second : List (StagedWrite × Reply)) :
    receiptOf (first ++ second) =
      ⟨(receiptOf first).writes + (receiptOf second).writes,
        (receiptOf first).outboxEntries + (receiptOf second).outboxEntries⟩ := by
  simp [receiptOf]

/-- What the save of an alert that wrote nothing fails with, by the answer to the question at which
version the alert is stored. -/
def staleError (save : AlertWrite) : Except StoreError Reply → StoreError
  | .error error => error
  | .ok ⟨[], _⟩ => .conflict save.record.id save.expected 0
  | .ok ⟨row :: _, _⟩ =>
    match row.first Int64 with
    | .ok version => .conflict save.record.id save.expected version.toInt
    | .error error => error

theorem staleError_eq (save : AlertWrite) (found : Except StoreError Reply) :
    staleError save found =
      match found.bind fun reply => reply.rows.head?.mapM (Row.first Int64) with
      | .ok version => .conflict save.record.id save.expected (version.getD 0).toInt
      | .error error => error := by
  rcases found with error | ⟨_ | ⟨row, rows⟩, affected⟩
  · rfl
  · rfl
  · simp only [staleError, Except.bind, List.head?_cons, Option.mapM_some]
    cases row.first Int64 <;> rfl

/-- How writes are sent, with what passes and how it ends: with the reply to each write if all of
them took effect, and otherwise with the error of the first that did not. -/
inductive Sends :
    List StagedWrite → List Exchange → Except StoreError (List (StagedWrite × Reply)) → Prop
  | done : Sends [] [] (.ok [])
  | took (write : StagedWrite) {rest : List StagedWrite} {reply : Reply} {later : List Exchange}
      {result : Except StoreError (List (StagedWrite × Reply))} (took : write.Took reply)
      (sends : Sends rest later result) :
      Sends (write :: rest) (.statement write.statement (.ok reply) :: later)
        (result.map ((write, reply) :: ·))
  | refused (write : StagedWrite) (rest : List StagedWrite) (error : StoreError) :
      Sends (write :: rest) [.statement write.statement (.error error)] (.error error)
  | stale (save : AlertWrite) (rest : List StagedWrite) (reply : Reply)
      (found : Except StoreError Reply) (nothing : reply.affected = 0) :
      Sends (.alert save :: rest)
        [.statement (saveAlert save) (.ok reply),
          .statement (selectVersion save.record.id) found]
        (.error (staleError save found))

/-- The course of a commit, with what passes and what it answers. -/
inductive Course (changes : ChangeSet) : List Exchange → Except StoreError CommitReceipt → Prop
  | unopened (error : StoreError) : Course changes [.start (.error error)] (.error error)
  | givenUp {sent : List Exchange} {error : StoreError}
      (sends : Sends (stagedWrites changes) sent (.error error)) :
      Course changes (.start (.ok ()) :: sent ++ [.rollback]) (.error error)
  | refused {sent : List Exchange} {done : List (StagedWrite × Reply)} (error : StoreError)
      (sends : Sends (stagedWrites changes) sent (.ok done)) :
      Course changes (.start (.ok ()) :: sent ++ [.commit (.error error), .rollback])
        (.error error)
  | lasting {sent : List Exchange} {done : List (StagedWrite × Reply)}
      (sends : Sends (stagedWrites changes) sent (.ok done)) :
      Course changes (.start (.ok ()) :: sent ++ [.commit (.ok ())]) (.ok (receiptOf done))

/-- Whether writes were sent in order, with nothing sent between them or after, and all took
effect. -/
def AllTook (writes : List StagedWrite) (exchanges : List Exchange) : Prop :=
  ∃ done : List (StagedWrite × Reply), done.map Prod.fst = writes ∧
    (∀ pair ∈ done, pair.1.Took pair.2) ∧
    exchanges.filterMap Exchange.statement? =
      done.map fun (write, reply) => (write.statement, .ok reply)

/-- Opening and ending a transaction are no writes. -/
theorem allTook_framed {writes : List StagedWrite} {sent ending : List Exchange}
    (opened : Except StoreError Unit) (none : ending.filterMap Exchange.statement? = []) :
    AllTook writes (.start opened :: sent ++ ending) ↔ AllTook writes sent := by
  unfold AllTook
  rw [List.cons_append, List.filterMap_cons_none rfl, List.filterMap_append, none,
    List.append_nil]

namespace Sends

variable {first second : List StagedWrite} {before after sent : List Exchange}
  {done : List (StagedWrite × Reply)} {error : StoreError}
  {result : Except StoreError (List (StagedWrite × Reply))}

/-- Nothing but statements is sent. -/
theorem commit_notMem (sends : Sends first sent result) (said : Except StoreError Unit) :
    .commit said ∉ sent := by
  induction sends with
  | done => exact List.not_mem_nil
  | took write took sends ih => simpa using ih
  | refused write rest error => simp
  | stale save rest reply found nothing => simp

theorem allTook (sends : Sends first sent (.ok done)) : AllTook first sent := by
  generalize ended : (Except.ok done : Except StoreError _) = result at sends
  induction sends generalizing done with
  | done => cases ended; exact ⟨[], rfl, (fun _ member => nomatch member), rfl⟩
  | @took write rest reply later result took sends ih =>
    cases result with
    | error error => cases ended
    | ok others =>
      obtain ⟨done, all, tookLater, same⟩ := ih rfl
      refine ⟨(write, reply) :: done, by rw [List.map_cons, all], ?_,
        by simp [Exchange.statement?, same]⟩
      intro pair member
      rcases List.mem_cons.mp member with rfl | member
      · exact took
      · exact tookLater pair member
  | refused => cases ended
  | stale => cases ended

/-- Writes of which one failed did not all take effect. -/
theorem not_allTook (sends : Sends first sent (.error error)) : ¬ AllTook first sent := by
  generalize ended : (Except.error error : Except StoreError _) = result at sends
  rintro ⟨done, all, took, same⟩
  induction sends generalizing done with
  | done => cases ended
  | @took write rest reply later result tookFirst sends ih =>
    cases result with
    | ok others => cases ended
    | error error =>
      obtain ⟨pair, others, rfl, first, rest⟩ := List.map_eq_cons_iff.mp all
      obtain ⟨-, later⟩ := List.cons.inj same
      cases ended
      exact ih rfl others rest (fun pair member => took pair (List.mem_cons_of_mem _ member)) later
  | refused write rest error =>
    obtain ⟨pair, others, rfl, first, rest⟩ := List.map_eq_cons_iff.mp all
    obtain ⟨first, -⟩ := List.cons.inj same
    cases (Prod.mk.inj first).2
  | stale save rest reply found nothing =>
    obtain ⟨⟨write, replied⟩, others, rfl, first, rest⟩ := List.map_eq_cons_iff.mp all
    obtain ⟨answered, -⟩ := List.cons.inj same
    cases first
    cases (Prod.mk.inj answered).2
    exact took (.alert save, reply) List.mem_cons_self nothing

theorem append_of_error (sends : Sends first sent (.error error)) :
    Sends (first ++ second) sent (.error error) := by
  generalize ended : (Except.error error : Except StoreError _) = result at sends
  induction sends with
  | done => cases ended
  | @took write rest reply later result took sends ih =>
    cases result with
    | ok others => cases ended
    | error error => cases ended; exact .took write took (ih rfl)
  | refused write rest => cases ended; exact .refused write _ _
  | stale save rest reply found nothing => cases ended; exact .stale save _ reply found nothing

theorem append (sends : Sends first before (.ok done)) (later : Sends second after result) :
    Sends (first ++ second) (before ++ after) (result.map (done ++ ·)) := by
  generalize ended : (Except.ok done : Except StoreError _) = ending at sends
  induction sends generalizing done with
  | done => cases ended; cases result <;> exact later
  | @took write rest reply passed ending took sends ih =>
    cases ending with
    | ok others =>
      cases ended
      have further := Sends.took write took (ih rfl)
      cases result <;> exact further
    | error error => cases ended
  | refused => cases ended
  | stale => cases ended

end Sends

namespace Course

variable {changes : ChangeSet} {exchanges : List Exchange}
  {answer : Except StoreError CommitReceipt}

/-- A transaction is to be made lasting exactly when it was opened and all writes took effect. -/
theorem commit_iff (course : Course changes exchanges answer) :
    (∃ said, .commit said ∈ exchanges) ↔
      .start (.ok ()) ∈ exchanges ∧ AllTook (stagedWrites changes) exchanges := by
  cases course with
  | unopened error => simp
  | givenUp sends =>
    have noCommit := sends.commit_notMem
    have noAll := sends.not_allTook
    rw [allTook_framed _ rfl]
    simp [noCommit, noAll]
  | refused error sends =>
    have all := sends.allTook
    rw [allTook_framed _ rfl]
    simp [all]
  | lasting sends =>
    have all := sends.allTook
    rw [allTook_framed _ rfl]
    simp [all]

/-- A commit answers exactly when its transaction was made lasting. -/
theorem ok_iff (course : Course changes exchanges answer) :
    (∃ receipt, answer = .ok receipt) ↔ .commit (.ok ()) ∈ exchanges := by
  cases course with
  | unopened error => simp
  | givenUp sends => simp [sends.commit_notMem]
  | refused error sends => simp [sends.commit_notMem]
  | lasting sends => simp

end Course

/-- Whether a call sends writes and nothing else, and answers, if they all took effect, by what was
done. -/
def Sending (writes : List StagedWrite) (overheard : Access (Overheard γ) α) (plain : Access γ α)
    (gives : List (StagedWrite × Reply) → α → Prop) : Prop :=
  Passes overheard plain fun passed answer =>
    (∃ done value, Sends writes passed (.ok done) ∧ gives done value ∧ answer = .ok value) ∨
      ∃ error, Sends writes passed (.error error) ∧ answer = .error error

namespace Sending

theorem bind {first second : List StagedWrite} {overheard : Access (Overheard γ) α}
    {plain : Access γ α} {overheardNext : α → Access (Overheard γ) β} {next : α → Access γ β}
    {gives : List (StagedWrite × Reply) → α → Prop}
    {givesLater : α → List (StagedWrite × Reply) → β → Prop}
    (sending : Sending first overheard plain gives)
    (later : ∀ value, Sending second (overheardNext value) (next value) (givesLater value)) :
    Sending (first ++ second) (overheard >>= overheardNext) (plain >>= next) fun done value =>
      ∃ one two middle, done = one ++ two ∧ gives one middle ∧ givesLater middle two value := by
  refine (Passes.bind sending later).mono ?_
  rintro passed answer (⟨error, ⟨_, _, _, _, failed⟩ | ⟨_, sends, failed⟩, rfl⟩ |
    ⟨value, before, after, ⟨one, _, sends, given, answered⟩ | ⟨_, _, answered⟩, ends, rfl⟩)
  · cases failed
  · cases failed
    exact .inr ⟨error, sends.append_of_error, rfl⟩
  · cases answered
    rcases ends with ⟨two, value, sendsLater, givenLater, rfl⟩ | ⟨error, sendsLater, rfl⟩
    · exact .inl ⟨one ++ two, value, sends.append sendsLater,
        ⟨one, two, _, rfl, given, givenLater⟩, rfl⟩
    · exact .inr ⟨error, sends.append sendsLater, rfl⟩
  · cases answered

/-- Nothing is sent by a call that answers without the server. -/
theorem of_answer {overheard : Access (Overheard γ) α} {plain : Access γ α} (value : α)
    {gives : List (StagedWrite × Reply) → α → Prop} (given : gives [] value)
    (heard : ∀ heard, overheard heard = (.ok value, heard))
    (went : ∀ server, plain server = (.ok value, server)) :
    Sending [] overheard plain gives := by
  refine (Passes.of_answer _ heard went).mono ?_
  rintro passed answer ⟨rfl, rfl⟩
  exact .inl ⟨[], value, .done, given, rfl⟩

theorem mono {writes : List StagedWrite} {overheard : Access (Overheard γ) α} {plain : Access γ α}
    {gives weaker : List (StagedWrite × Reply) → α → Prop}
    (sending : Sending writes overheard plain gives)
    (implies : ∀ done value, gives done value → weaker done value) :
    Sending writes overheard plain weaker := by
  refine Passes.mono sending ?_
  rintro passed answer (⟨done, value, sends, given, rfl⟩ | failed)
  · exact .inl ⟨done, value, sends, implies _ _ given, rfl⟩
  · exact .inr failed

theorem map {writes : List StagedWrite} {overheard : Access (Overheard γ) α} {plain : Access γ α}
    {gives : List (StagedWrite × Reply) → α → Prop} (sending : Sending writes overheard plain gives)
    (change : α → β) :
    Sending writes (do return change (← overheard)) (do return change (← plain))
      fun done value => ∃ first, gives done first ∧ value = change first := by
  have last (first : α) : Sending [] (pure (change first)) (pure (change first) : Access γ β)
      fun done value => done = [] ∧ value = change first :=
    .of_answer _ ⟨rfl, rfl⟩ (fun _ => rfl) fun _ => rfl
  have further := sending.bind last
  rw [List.append_nil] at further
  refine further.mono ?_
  rintro _ _ ⟨done, _, first, rfl, given, rfl, rfl⟩
  exact ⟨first, by rwa [List.append_nil], rfl⟩

end Sending

/-! ## Sending the writes -/

variable [Connection γ]

/-- Asks for the stored version of an alert whose save wrote nothing, and fails. -/
def failStale (save : AlertWrite) : Access γ Unit := do
  let version : Option Int64 ← queryValue (selectVersion save.record.id)
  throw (.conflict save.record.id save.expected (version.getD 0).toInt)

/-- Saves an alert. -/
def saveOne (save : AlertWrite) : Access γ Unit := do
  if (← execute (saveAlert save)) = 0 then failStale save

theorem saveAlerts_cons (save : AlertWrite) (rest : List AlertWrite) :
    (saveAlerts (save :: rest) : Access γ Unit) = (do saveOne save; saveAlerts rest) := by
  unfold saveOne
  rw [bind_assoc]
  refine congrArg (execute (saveAlert save) >>= ·) (funext fun affected => ?_)
  by_cases nothing : affected = 0
  · simp only [if_pos nothing, failStale, bind_assoc]
  · simp only [if_neg nothing]
    rfl

theorem passes_failStale (save : AlertWrite) :
    Passes (failStale save) (failStale save : Access γ Unit) fun passed answer =>
      ∃ found, passed = [.statement (selectVersion save.record.id) found] ∧
        answer = .error (staleError save found) := by
  refine ((passes_queryValue (selectVersion save.record.id)).bind fun version =>
    Passes.of_answer _ (fun _ => rfl) fun _ => rfl).mono ?_
  rintro passed answer (⟨error, ⟨found, rfl, read⟩, rfl⟩ |
    ⟨version, before, after, ⟨found, rfl, read⟩, ⟨rfl, rfl⟩, rfl⟩)
  · exact ⟨found, rfl, by rw [staleError_eq, ← read]⟩
  · exact ⟨found, rfl, by rw [staleError_eq, ← read]⟩

/-- A statement for a write that takes effect whatever the reply. -/
theorem sending_execute {write : StagedWrite} (took : ∀ reply, write.Took reply) :
    Sending [write] (execute write.statement) (execute write.statement : Access γ Nat)
      fun done affected => ∃ reply, done = [(write, reply)] ∧ affected = reply.affected := by
  refine (passes_execute _).mono ?_
  rintro passed answer ⟨error | reply, rfl, rfl⟩
  · exact .inr ⟨_, .refused _ _ _, rfl⟩
  · exact .inl ⟨_, _, .took _ (took _) .done, ⟨_, rfl, rfl⟩, rfl⟩

theorem sending_saveOne (save : AlertWrite) :
    Sending [.alert save] (saveOne save) (saveOne save : Access γ Unit)
      fun done _ => ∃ reply, done = [(.alert save, reply)] := by
  unfold saveOne
  refine ((passes_execute (saveAlert save)).bind fun affected => .ite (affected = 0)
    (passes_failStale save) (.of_answer (.ok ()) (fun _ => rfl) fun _ => rfl)).mono ?_
  rintro passed answer (⟨error, ⟨found, rfl, failed⟩, rfl⟩ |
    ⟨affected, before, after, ⟨found, rfl, counted⟩, later, rfl⟩)
  · cases found with
    | ok reply => cases failed
    | error error => cases failed; exact .inr ⟨error, .refused (.alert save) _ error, rfl⟩
  · cases found with
    | error error => cases counted
    | ok reply =>
      cases counted
      by_cases nothing : reply.affected = 0
      · rw [if_pos nothing] at later
        obtain ⟨found, rfl, rfl⟩ := later
        exact .inr ⟨_, .stale save _ reply found nothing, rfl⟩
      · rw [if_neg nothing] at later
        obtain ⟨rfl, rfl⟩ := later
        exact .inl ⟨_, (), .took (.alert save) nothing .done, ⟨reply, rfl⟩, rfl⟩

/-- Statements that are sent in order, and of which none need write anything. -/
theorem sending_executeAll (kind : β → StagedWrite)
    (took : ∀ item reply, (kind item).Took reply) (counted : Nat → CommitReceipt)
    (none : counted 0 = ⟨0, 0⟩)
    (more : ∀ item reply number, counted (reply.affected + number) =
      ⟨(kind item).writes reply + (counted number).writes,
        (kind item).entries reply + (counted number).outboxEntries⟩) (items : List β) :
    Sending (items.map kind) (executeAll (items.map fun item => (kind item).statement))
      (executeAll (items.map fun item => (kind item).statement) : Access γ Nat)
      fun done number => receiptOf done = counted number := by
  induction items with
  | nil => exact .of_answer 0 none.symm (fun _ => rfl) fun _ => rfl
  | cons item rest ih =>
    refine ((sending_execute (took item)).bind fun affected => ih.map (affected + ·)).mono ?_
    rintro _ _ ⟨_, done, _, rfl, ⟨reply, rfl, rfl⟩, number, counted, rfl⟩
    rw [receiptOf_append, counted, more item]
    rfl

theorem sending_saveAlerts (saves : List AlertWrite) :
    Sending (saves.map .alert) (saveAlerts saves) (saveAlerts saves : Access γ Unit)
      fun done _ => receiptOf done = ⟨saves.length, 0⟩ := by
  induction saves with
  | nil => exact .of_answer () rfl (fun _ => rfl) fun _ => rfl
  | cons save rest ih =>
    rw [saveAlerts_cons, saveAlerts_cons]
    refine ((sending_saveOne save).bind fun _ => ih).mono ?_
    rintro _ _ ⟨_, done, _, rfl, ⟨reply, rfl⟩, counted⟩
    rw [receiptOf_append, counted, List.length_cons, Nat.add_comm]
    rfl

/-- The writes of a change set are sent in their order, and the receipt counts what was done. -/
theorem sending_writeAll (changes : ChangeSet) :
    Sending (stagedWrites changes) (writeAll changes) (writeAll changes : Access γ CommitReceipt)
      fun done receipt => receipt = receiptOf done := by
  have readings := sending_executeAll (γ := γ) StagedWrite.reading (fun _ _ => trivial) (⟨·, 0⟩)
    rfl (fun _ _ _ => rfl) changes.readings
  have alerts := sending_saveAlerts (γ := γ) changes.alerts
  have sensors := sending_executeAll (γ := γ) StagedWrite.sensor (fun _ _ => trivial) (⟨·, 0⟩)
    rfl (fun _ _ _ => rfl) changes.sensors
  have owners := sending_executeAll (γ := γ) StagedWrite.owner (fun _ _ => trivial) (⟨·, 0⟩)
    rfl (fun _ _ _ => rfl) changes.owners
  have entries := sending_executeAll (γ := γ) StagedWrite.entry (fun _ _ => trivial) (⟨0, ·⟩)
    rfl (fun _ _ _ => rfl) changes.outbox
  have all := readings.bind fun written => alerts.bind fun _ => sensors.bind fun sensorsWritten =>
    owners.bind fun ownersWritten => entries.map fun outboxEntries =>
      ({ writes := written + changes.alerts.length + sensorsWritten + ownersWritten,
         outboxEntries } : CommitReceipt)
  simp only [← List.append_assoc] at all
  refine Sending.mono all ?_
  rintro _ _ ⟨_, _, _, rfl, first, _, _, _, rfl, second, _, _, _, rfl, third, _, _, _, rfl,
    fourth, _, fifth, rfl⟩
  simp only [receiptOf_append, first, second, third, fourth, fifth]
  simp only [Nat.add_assoc, Nat.zero_add, Nat.add_zero]

/-! ## The transaction -/

theorem transaction_apply (body : Access γ α) (server : γ) :
    transaction body server =
      match Connection.start server with
      | (.error error, opened) => (Except.error error, opened)
      | (.ok _, opened) =>
        match body opened with
        | (.error error, written) => (Except.error error, (Connection.rollback written).2)
        | (.ok value, written) =>
          match Connection.commit written with
          | (.ok _, after) => (Except.ok value, after)
          | (.error error, after) => (Except.error error, (Connection.rollback after).2) := by
  unfold transaction
  rw [Access.bind_apply]
  rcases Connection.start server with ⟨_ | _, opened⟩
  · rfl
  · dsimp only
    rw [Access.bind_apply, Access.tryCatch_apply]
    rcases went : body opened with ⟨_ | value, written⟩
    · simp only [bind, ExceptT.bind, ExceptT.mk, StateT.bind, liftM, monadLift,
        MonadLift.monadLift, ExceptT.lift, Functor.map, went]
      rfl
    · simp only [bind, ExceptT.bind, ExceptT.mk, StateT.bind, liftM, monadLift,
        MonadLift.monadLift, ExceptT.lift, Functor.map, went, ExceptT.bindCont]
      rcases Connection.commit written with ⟨_ | _, after⟩ <;> rfl

/-- A transaction round the writes of a change set takes one of the courses. -/
theorem passes_transaction (changes : ChangeSet) :
    Passes (transaction (writeAll changes))
      (transaction (writeAll changes) : Access γ CommitReceipt) (Course changes) := by
  intro server earlier
  obtain ⟨_, started, rfl⟩ :=
    Passes.of_relay (Connection.start : Access γ Unit) .start server earlier
  change Connection.start _ = _ at started
  rw [transaction_apply, transaction_apply, started]
  rcases Connection.start server with ⟨error | _, opened⟩
  · exact ⟨_, rfl, .unopened error⟩
  dsimp only
  obtain ⟨sent, same, ends⟩ :=
    sending_writeAll changes opened (earlier ++ [.start (.ok ())])
  -- Overheard or not, the writes ended in the same way; only what passed is told from here on.
  rw [same]
  clear same
  generalize writeAll changes opened = wrote at ends
  obtain ⟨answer, written⟩ := wrote
  rcases ends with ⟨done, receipt, sends, rfl, rfl⟩ | ⟨error, sends, rfl⟩
  · dsimp only
    obtain ⟨_, committed, rfl⟩ := Passes.of_relay (Connection.commit : Access γ Unit) .commit
      written (earlier ++ [.start (.ok ())] ++ sent)
    change Connection.commit _ = _ at committed
    rw [committed]
    rcases Connection.commit written with ⟨error | _, after⟩
    · exact ⟨_, by simp [Connection.rollback], .refused error sends⟩
    · exact ⟨_, by simp, .lasting sends⟩
  · exact ⟨_, by simp [Connection.rollback], .givenUp sends⟩

/-- Whatever a server answers and whatever was staged, a commit goes one of the courses of a
transaction, overheard or not. It asks for the transaction to be made lasting exactly when it was
opened and all writes took effect, and answers exactly when that was granted. -/
theorem commit_is_one_transaction (server : γ) (changes : ChangeSet) :
    ∃ exchanges answer after,
      Backend.commit changes (⟨server, []⟩ : Overheard γ) = (answer, ⟨after, exchanges⟩) ∧
      Backend.commit changes server = (answer, after) ∧
      Course changes exchanges answer ∧
      ((∃ said, .commit said ∈ exchanges) ↔
        .start (.ok ()) ∈ exchanges ∧ AllTook (stagedWrites changes) exchanges) ∧
      ((∃ receipt, answer = .ok receipt) ↔ .commit (.ok ()) ∈ exchanges) := by
  obtain ⟨exchanges, same, course⟩ := passes_transaction changes server []
  exact ⟨exchanges, _, _, same, rfl, course, course.commit_iff, course.ok_iff⟩

/-- An alert as it is raised. -/
def openGate : AlertRecord :=
  ⟨⟨1⟩, ⟨1⟩, .custom, .high, "Gate open", none, none, .pending, .epoch, none, none, none, none,
    none⟩

/-- A save that wrote nothing is not reported as stale when the stored version is asked for and the
question is refused: no version was reported, and the refusal is the answer. -/
theorem refused_question_is_not_stale :
    (∃ after, Backend.commit { alerts := [⟨openGate, 1, 2⟩] }
        (⟨{ script := [.reply { affected := 0 }, .refusal] }, []⟩ : Overheard Rehearsal.Peer) =
      (.error .database, ⟨after, [.start (.ok ()),
        .statement (saveAlert ⟨openGate, 1, 2⟩) (.ok { affected := 0 }),
        .statement (selectVersion openGate.id) (.error .database), .rollback]⟩)) ∧
      ∀ actual, StoreError.database ≠ .conflict openGate.id 1 actual :=
  ⟨⟨_, rfl⟩, nofun⟩

end Fieldwatch.Database
