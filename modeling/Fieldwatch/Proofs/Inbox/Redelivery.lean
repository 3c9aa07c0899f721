import Fieldwatch.Proofs.Inbox.Effects

/-!
# Redelivery

The broker may deliver an event more than once. An event that was handled is passed over when it
comes again: what a rule makes or writes shows the event to the same rule, and a rule that passed
the row over does so again, whatever the clock says.
-/
namespace Fieldwatch.Inbox

variable {policy : StalenessPolicy} {message : Message} {first : MessageContext}
  {world after later : World Tables} {outcome : Outcome}

/-- A message that follows a rule and was handled is passed over by the rule. -/
theorem Rule.Governs.load_of_handled {σ : Type} {kind : IdKind} [Snapshot σ kind] [Shelf σ]
    {rule : Rule σ kind} (governs : rule.Governs policy message) (second : MessageContext)
    (handled : Inbox.handle policy message first world = (.ok outcome, after))
    (kept : later.store = after.store) :
    ∃ targetId again clock,
      Inbox.load (Plan.ofMessage policy message) second later =
        (.ok ⟨targetId, .skip again⟩, { later with now := clock }) ∧
      again.isWrite = false := by
  obtain ⟨result, left, ran, effect⟩ := governs.handle first world
  cases ran.symm.trans handled
  rw [governs.load second later, kept]
  generalize after.store = tables at effect
  cases effect with
  | passed nothing =>
    obtain ⟨decided, notWrite⟩ := decide_of_nothing nothing later.now.time
    exact ⟨_, _, later.now.next, by rw [decided], notWrite⟩
  | wrote _ _ owns _ shown =>
    rw [stored?_placed owns, decide_of_shows shown]
    exact ⟨_, .duplicate, later.now.next, rfl, rfl⟩

/-- What is decided on an event that was handled is to pass it over, whatever the clock tells. -/
theorem load_of_handled (second : MessageContext)
    (handled : handle policy message first world = (.ok outcome, after))
    (kept : later.store = after.store) :
    ∃ targetId again clock,
      load (Plan.ofMessage policy message) second later =
        (.ok ⟨targetId, .skip again⟩, { later with now := clock }) ∧
      again.isWrite = false := by
  rcases ruling_cases policy message with ⟨passed, notWrite, plan⟩ | ⟨rule, ruling⟩ | ⟨rule, ruling⟩
  · exact ⟨_, passed, later.now, plan ▸ load_done passed, notWrite⟩
  · exact ruling.governs.load_of_handled second handled kept
  · exact ruling.governs.load_of_handled second handled kept

/-- An event that was handled is passed over when it is handled again on the store that was left,
at any time, in any delivery: nothing is created or applied, no commit is made, and nothing of the
world but its clock is touched. -/
theorem redelivery_changes_nothing (second : MessageContext)
    (handled : handle policy message first world = (.ok outcome, after))
    (kept : later.store = after.store) :
    ∃ targetId again clock,
      load (Plan.ofMessage policy message) second later =
        (.ok ⟨targetId, .skip again⟩, { later with now := clock }) ∧
      handle policy message second later = (.ok again, { later with now := clock }) ∧
      again ≠ .created ∧ again ≠ .applied := by
  obtain ⟨targetId, again, clock, loaded, notWrite⟩ := load_of_handled second handled kept
  refine ⟨targetId, again, clock, loaded, ?_, ?_, ?_⟩
  · rw [handle_eq_finish loaded, finish_skip]
  · rintro rfl; cases notWrite
  · rintro rfl; cases notWrite

/-- The news that a sensor went into maintenance. -/
def maintenanceNews : Message :=
  .sensorOperationalStatusChanged ⟨⟨7⟩, .epoch, ⟨1⟩, "Active", "Maintenance", some "drift", none⟩

/-- A store with that sensor in use, an hour after the news. -/
def sensorInUse : World Tables :=
  ⟨.still ⟨3600, 0, by decide, by decide, by decide⟩, ⟨fun count => BitVec.ofNat 128 count, 0⟩,
    { sensors := [.register ⟨1⟩ ⟨⟨2⟩, ⟨3⟩, ⟨4⟩, none, "North", "Mill"⟩ .active
        ⟨-60, 0, by decide, by decide, by decide⟩ .epoch] }, {}⟩

/-- The news is applied, and changes nothing when it comes again to a clock that was set back. -/
theorem maintenanceNews_changes_nothing_again :
    ∃ after, handle .standard maintenanceNews (.ofMessage maintenanceNews ⟨9⟩) sensorInUse =
        (.ok .applied, after) ∧
      ∃ targetId again clock,
        load (Plan.ofMessage .standard maintenanceNews) (.ofMessage maintenanceNews ⟨9⟩)
            { after with now := .still .epoch } =
          (.ok ⟨targetId, .skip again⟩, { after with now := clock }) ∧
        handle .standard maintenanceNews (.ofMessage maintenanceNews ⟨9⟩)
            { after with now := .still .epoch } =
          (.ok again, { after with now := clock }) ∧
        again ≠ .created ∧ again ≠ .applied := by
  have applied : handle .standard maintenanceNews (.ofMessage maintenanceNews ⟨9⟩) sensorInUse =
      (.ok .applied, _) := rfl
  exact ⟨_, applied, redelivery_changes_nothing _ applied rfl⟩

end Fieldwatch.Inbox
