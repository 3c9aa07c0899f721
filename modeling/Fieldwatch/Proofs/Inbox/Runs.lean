import Fieldwatch.Proofs.Inbox.Effects

/-!
# Runs of deliveries

Deliveries handled one after the other over the store in memory. A rule makes of a row what
`Rule.next` says, and as long as no commit is set to fail every delivery about a sensor or an owner
is answered and leaves its row so. What holds of a run is shown delivery by delivery with
`handleAll_of_step`.
-/
namespace Fieldwatch.Inbox

open Tables (find?)

variable {policy : StalenessPolicy} {message : Message} {context : MessageContext}
  {world after : World Tables}

/-! ## Deliveries about one row -/

/-- A message that follows a rule is answered with its outcome and leaves its next row. -/
theorem Rule.Governs.handle_of_unset {σ : Type} {kind : IdKind} [Snapshot σ kind] [Shelf σ]
    {rule : Rule σ kind} (governs : rule.Governs policy message) (context : MessageContext)
    (unset : world.store.failNextCommit = false) :
    ∃ after, Inbox.handle policy message context world =
        (.ok (rule.outcome (rule.stored? world.store)), after) ∧
      after.store.failNextCommit = false ∧
      rule.stored? after.store = rule.next (rule.stored? world.store) world.now.time := by
  obtain ⟨result, after, handled, effect⟩ := governs.handle context world
  obtain ⟨answered, unset, left⟩ := effect.stored? unset
  exact ⟨after, answered ▸ handled, unset, left⟩

/-- The row of a sensor after a message about it. -/
def sensorAfter (policy : StalenessPolicy) (message : Message) (stored : Option SensorSnapshot)
    (now : Instant) : Option SensorSnapshot :=
  ((sensorRule? policy message).map fun rule => rule.next stored now).getD stored

/-- The row of an owner after a message about it. -/
def ownerAfter (policy : StalenessPolicy) (message : Message) (stored : Option OwnerSnapshot)
    (now : Instant) : Option OwnerSnapshot :=
  ((ownerRule? policy message).map fun rule => rule.next stored now).getD stored

/-- A message about a sensor that follows a rule is answered with the outcome of the rule and leaves
its next row. -/
theorem handle_of_sensorRule {rule : Rule SensorSnapshot .sensor}
    (told : sensorRule? policy message = some rule) (context : MessageContext)
    (unset : world.store.failNextCommit = false) :
    ∃ after, handle policy message context world =
        (.ok (rule.outcome (find? world.store.sensors rule.id)), after) ∧
      after.store.failNextCommit = false ∧
      find? after.store.sensors rule.id =
        rule.next (find? world.store.sensors rule.id) world.now.time :=
  (sensorRuling_of_rule? told).governs.handle_of_unset context unset

/-- A message about a sensor is answered when commits succeed, and makes of the row of the sensor
what its rule says. -/
theorem handle_sensor {id : SensorId} (about : sensorOf? message = some id)
    (context : MessageContext) (unset : world.store.failNextCommit = false) :
    ∃ outcome after, handle policy message context world = (.ok outcome, after) ∧
      after.store.failNextCommit = false ∧
      find? after.store.sensors id =
        sensorAfter policy message (find? world.store.sensors id) world.now.time := by
  rw [sensorAfter]
  cases told : sensorRule? policy message with
  | none =>
    obtain ⟨reason, plan⟩ := plan_of_malformed about told
    exact ⟨_, _, handle_of_done plan context world, unset, rfl⟩
  | some rule =>
    cases about.symm.trans (sensorRuling_of_rule? told).about
    exact ⟨_, handle_of_sensorRule told context unset⟩

/-- A message about an owner is answered when commits succeed, and makes of the row of the owner
what its rule says. -/
theorem handle_owner {id : OwnerId} (about : ownerOf? message = some id)
    (context : MessageContext) (unset : world.store.failNextCommit = false) :
    ∃ outcome after, handle policy message context world = (.ok outcome, after) ∧
      after.store.failNextCommit = false ∧
      find? after.store.owners id =
        ownerAfter policy message (find? world.store.owners id) world.now.time := by
  rw [ownerAfter]
  cases told : ownerRule? policy message with
  | none =>
    obtain ⟨reason, plan⟩ := plan_of_malformedOwner about told
    exact ⟨_, _, handle_of_done plan context world, unset, rfl⟩
  | some rule =>
    have ruling := ownerRuling_of_rule? told
    cases about.symm.trans ruling.about
    exact ⟨_, ruling.governs.handle_of_unset context unset⟩

/-- A write is made only where commits do not fail. -/
theorem Rule.Governs.unset_of_write {σ : Type} {kind : IdKind} [Snapshot σ kind] [Shelf σ]
    {rule : Rule σ kind} (governs : rule.Governs policy message) {outcome : Outcome}
    (wrote : outcome.isWrite = true)
    (handled : Inbox.handle policy message context world = (.ok outcome, after)) :
    world.store.failNextCommit = false := by
  obtain ⟨result, left, ran, effect⟩ := governs.handle context world
  cases ran.symm.trans handled
  generalize after.store = tables at effect
  cases effect with
  | passed nothing =>
    rw [rule.isWrite_outcome _ world.now.time, nothing] at wrote
    cases wrote
  | wrote _ unset => exact unset

/-! ## Runs -/

/-- A message as it is delivered. -/
structure Delivery where
  message : Message
  context : MessageContext

/-- Handles deliveries one after the other, as long as the store does not fail. -/
def handleAll {σ : Type} [Backend σ] (policy : StalenessPolicy) (deliveries : List Delivery) :
    Task σ InboxError (List Outcome) :=
  deliveries.mapM fun delivery => handle policy delivery.message delivery.context

/-- When each delivery is answered, and keeps what holds of those handled before it, all are
answered, and it holds of all of them. -/
theorem handleAll_of_step {σ : Type} [Backend σ] {deliveries : List Delivery} {world : World σ}
    (Holds : List Delivery → World σ → Prop) (start : Holds [] world)
    (step : ∀ done, ∀ delivery ∈ deliveries, ∀ world, Holds done world →
      ∃ outcome after,
        handle policy delivery.message delivery.context world = (.ok outcome, after) ∧
        Holds (done ++ [delivery]) after) :
    ∃ outcomes after, handleAll policy deliveries world = (.ok outcomes, after) ∧
      Holds deliveries after := by
  have onward (rest done : List Delivery) (split : deliveries = done ++ rest) :
      ∀ world, Holds done world → ∃ outcomes after,
        handleAll policy rest world = (.ok outcomes, after) ∧ Holds deliveries after := by
    induction rest generalizing done with
    | nil =>
      intro world holds
      rw [List.append_nil] at split
      exact ⟨[], world, rfl, split ▸ holds⟩
    | cons delivery rest ih =>
      intro world holds
      have here : delivery ∈ deliveries := split ▸ List.mem_append_right _ List.mem_cons_self
      obtain ⟨outcome, middle, handled, holds⟩ := step done delivery here world holds
      obtain ⟨outcomes, after, run, holds⟩ :=
        ih (done ++ [delivery]) (by rw [split, List.append_cons]) middle holds
      refine ⟨outcome :: outcomes, after, ?_, holds⟩
      rw [handleAll, List.mapM_cons, Task.bind_of_ok handled, ← handleAll, Task.bind_of_ok run]
      rfl
  exact onward deliveries [] rfl world start

end Fieldwatch.Inbox
