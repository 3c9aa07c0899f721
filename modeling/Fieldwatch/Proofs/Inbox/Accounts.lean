import Fieldwatch.Proofs.Frame
import Fieldwatch.Proofs.Inbox.Effects

/-!
# What the inbox tells

What the inbox answers on a delivery, set against what became of the store. A write is told of when
one commit was made, and then nothing but the row that the payload is about was touched; a failure
is told of when that commit was refused; and in every other case the store was left alone.
-/
namespace Fieldwatch.Inbox

open Tables (placed)

/-- Whether an answer tells of a write. -/
def TellsWrite (result : Except InboxError Outcome) : Prop :=
  result = .ok .created ∨ result = .ok .applied

theorem tellsWrite_ok {outcome : Outcome} :
    TellsWrite (.ok outcome) ↔ outcome.isWrite = true := by
  cases outcome <;> simp [TellsWrite, Outcome.isWrite]

/-- Whether a store is an earlier one after one commit of the row that a message is about, every
other row and every other table being as it was. -/
inductive OneRow (message : Message) (tables : Tables) : Tables → Prop
  | sensor {row : SensorSnapshot} (about : sensorOf? message = some row.id) :
    OneRow message tables
      { tables with sensors := placed tables.sensors row, commits := tables.commits + 1 }
  | owner {row : OwnerSnapshot} (about : ownerOf? message = some row.id) :
    OneRow message tables
      { tables with owners := placed tables.owners row, commits := tables.commits + 1 }

theorem OneRow.commits {message : Message} {tables after : Tables}
    (wrote : OneRow message tables after) : after.commits = tables.commits + 1 := by
  cases wrote <;> rfl

/-- Whether the answer on an envelope tells what became of a store. -/
structure Accounts (envelope : Envelope) (tables : Tables) (result : Except InboxError Outcome)
    (after : Tables) : Prop where
  /-- A failure is that of a commit: the store was set to refuse the next one, whatever was staged.
  It is told with the names that the envelope carries and with the identifier that its payload is
  about. -/
  failed : ∀ error, result = .error error →
    tables.failNextCommit = true ∧
    (∀ changes, tables.commit changes = (.error error.cause, after)) ∧
    error.context.eventType = envelope.eventType ∧ error.context.eventId = envelope.eventId ∧
    error.context.correlationId = envelope.correlationId ∧
    ∃ message, Message.ofEnvelope envelope = .ok message ∧ error.targetId = message.aggregateId
  /-- A write is told of exactly when one commit succeeded. -/
  wrote_iff : TellsWrite result ↔ after.commits = tables.commits + 1
  wrote : TellsWrite result →
    ∃ message, Message.ofEnvelope envelope = .ok message ∧ OneRow message tables after
  /-- In every other case no commit succeeded, and what the store holds is as it was. -/
  kept : ¬ TellsWrite result → after.HoldsAs tables

variable {policy : StalenessPolicy} {message : Message} {envelope : Envelope} {attempt : UInt32}
  {tables after : Tables} {outcome : Outcome}

theorem Accounts.of_passed (notWrite : outcome.isWrite = false) :
    Accounts envelope tables (.ok outcome) tables where
  failed := by rintro _ ⟨⟩
  wrote_iff := by simp [tellsWrite_ok, notWrite]
  wrote write := by
    rw [tellsWrite_ok, notWrite] at write
    cases write
  kept _ := .refl tables

theorem Accounts.of_refused {error : InboxError} {attempt : UInt32}
    (opened : Message.ofEnvelope envelope = .ok message)
    (context : error.context = .ofEnvelope envelope attempt)
    (target : error.targetId = message.aggregateId)
    (set : tables.failNextCommit = true)
    (refused : ∀ changes, tables.commit changes = (.error error.cause, after))
    (holds : after.HoldsAs tables) :
    Accounts envelope tables (.error error) after where
  failed := by
    rintro _ ⟨⟩
    rw [context]
    exact ⟨set, refused, rfl, rfl, rfl, message, opened, target⟩
  wrote_iff := by
    have same : after.commits = tables.commits := by rw [show after = _ from holds]
    simp [TellsWrite, same]
  wrote := by rintro (⟨⟨⟩⟩ | ⟨⟨⟩⟩)
  kept _ := holds

theorem Accounts.of_wrote (write : outcome.isWrite = true)
    (opened : Message.ofEnvelope envelope = .ok message) (wrote : OneRow message tables after) :
    Accounts envelope tables (.ok outcome) after where
  failed := by rintro _ ⟨⟩
  wrote_iff := by simp [tellsWrite_ok, write, wrote.commits]
  wrote _ := ⟨message, opened, wrote⟩
  kept other := absurd (tellsWrite_ok.mpr write) other

/-- What a rule does is told, when its row is the one that the message is about. -/
theorem Rule.Effect.accounts {σ : Type} {kind : IdKind} [Snapshot σ kind] [Shelf σ]
    {rule : Rule σ kind} {now : Instant} {result : Except InboxError Outcome}
    (effect : rule.Effect (.ofEnvelope envelope attempt) tables now result after)
    (opened : Message.ofEnvelope envelope = .ok message)
    (target : rule.id.cast .entity = message.aggregateId)
    (oneRow : ∀ row : σ, Snapshot.id row = rule.id → OneRow message tables
      (Shelf.withRows (placed (Shelf.rows tables) row) (tables.commits + 1) tables)) :
    Accounts envelope tables result after := by
  cases effect with
  | passed nothing =>
    refine .of_passed ?_
    rw [rule.isWrite_outcome _ now, nothing]
    rfl
  | refused _ set =>
    exact .of_refused opened rfl target set
      (fun changes => Tables.commit_of_failNext changes set) rfl
  | wrote something _ owns _ _ =>
    refine .of_wrote ?_ opened (oneRow _ owns)
    rw [rule.isWrite_outcome _ now, something]

theorem SensorRuling.target {rule : Rule SensorSnapshot .sensor}
    (ruling : SensorRuling policy message rule) : rule.id.cast .entity = message.aggregateId := by
  cases ruling <;> rfl

theorem OwnerRuling.target {rule : Rule OwnerSnapshot .owner}
    (ruling : OwnerRuling policy message rule) : rule.id.cast .entity = message.aggregateId := by
  cases ruling <;> rfl

theorem accounts_handle (policy : StalenessPolicy) (attempt : UInt32) (world : World Tables)
    (opened : Message.ofEnvelope envelope = .ok message) :
    ∃ result after,
      handle policy message (.ofEnvelope envelope attempt) world = (result, after) ∧
      Accounts envelope world.store result after.store := by
  rcases ruling_cases policy message with
    ⟨outcome, notWrite, plan⟩ | ⟨rule, ruling⟩ | ⟨rule, ruling⟩
  · exact ⟨_, _, handle_of_done plan _ world, .of_passed notWrite⟩
  · obtain ⟨result, after, handled, effect⟩ :=
      ruling.governs.handle (.ofEnvelope envelope attempt) world
    refine ⟨result, after, handled, effect.accounts opened ruling.target fun row owns => ?_⟩
    exact .sensor (ruling.about.trans (congrArg some owns.symm))
  · obtain ⟨result, after, handled, effect⟩ :=
      ruling.governs.handle (.ofEnvelope envelope attempt) world
    refine ⟨result, after, handled, effect.accounts opened ruling.target fun row owns => ?_⟩
    exact .owner (ruling.about.trans (congrArg some owns.symm))

/-- Whatever envelope is delivered, to whatever store, the answer of the inbox tells what became of
the store. -/
theorem process_accounts (policy : StalenessPolicy) (envelope : Envelope) (attempt : UInt32)
    (world : World Tables) :
    ∃ result after, process policy envelope attempt world = (result, after) ∧
      Accounts envelope world.store result after.store := by
  unfold process
  cases opened : Message.ofEnvelope envelope with
  | error error => exact ⟨_, _, rfl, .of_passed rfl⟩
  | ok message =>
    obtain ⟨result, after, handled, accounts⟩ := accounts_handle policy attempt world opened
    simp only [handled]
    exact ⟨result, _, rfl, accounts⟩

end Fieldwatch.Inbox
