import Fieldwatch.Proofs.Inbox.Rules
import Fieldwatch.Proofs.Inbox.Steps

/-!
# What handling does

A message that follows a rule is passed over, or its rule has one row written; then the commit is
refused and nothing is written, or the row is placed in its table and nothing else is touched.
`Rule.Effect` lists these three, and `Rule.Governs.handle` says that handling does one of them.
-/
namespace Fieldwatch.Inbox

open Tables (find? placed)

variable {policy : StalenessPolicy} {message : Message}

section Rules

variable {σ : Type} {kind : IdKind} [Snapshot σ kind] [Shelf σ] {rule : Rule σ kind}

/-- The row that a rule is about, if it is stored. -/
def Rule.stored? (rule : Rule σ kind) (tables : Tables) : Option σ :=
  find? (Shelf.rows tables) rule.id

/-- Whether a message is decided by a rule, and the rule is lawful. -/
structure Rule.Governs (rule : Rule σ kind) (policy : StalenessPolicy) (message : Message) :
    Prop where
  lawful : rule.Lawful
  plan : Plan.ofMessage policy message = Shelf.plan rule.id (rule.decide Shelf.stage)

/-- What handling may do to a store on a rule: pass the event over, have the commit refused, or
place the next row. -/
inductive Rule.Effect (rule : Rule σ kind) (context : MessageContext) (tables : Tables)
    (now : Instant) : Except InboxError Outcome → Tables → Prop
  | passed (nothing : rule.staged? (rule.stored? tables) now = none) :
    Effect rule context tables now (.ok (rule.outcome (rule.stored? tables))) tables
  | refused (something : (rule.staged? (rule.stored? tables) now).isSome)
    (set : tables.failNextCommit = true) :
    Effect rule context tables now
      (.error ⟨context, rule.id.cast .entity, .unavailable "injected commit failure"⟩)
      { tables with failNextCommit := false }
  | wrote {row : σ} (something : (rule.staged? (rule.stored? tables) now).isSome)
    (unset : tables.failNextCommit = false) (owns : Snapshot.id row = rule.id)
    (next : rule.next (rule.stored? tables) now = some row) (shown : rule.shows row = true) :
    Effect rule context tables now (.ok (rule.outcome (rule.stored? tables)))
      (Shelf.withRows (placed (Shelf.rows tables) row) (tables.commits + 1) tables)

namespace Rule.Governs

/-- What is loaded is the decision of the rule on the row that is stored. -/
theorem load (governs : rule.Governs policy message) (context : MessageContext)
    (world : World Tables) : Inbox.load (Plan.ofMessage policy message) context world =
      (.ok ⟨rule.id.cast .entity,
        rule.decide Shelf.stage (rule.stored? world.store) world.now.time⟩,
        { world with now := world.now.next }) := by
  rw [governs.plan, Shelf.load_plan]
  rfl

theorem handle (governs : rule.Governs policy message) (context : MessageContext)
    (world : World Tables) :
    ∃ result after, Inbox.handle policy message context world = (result, after) ∧
      rule.Effect context world.store world.now.time result after.store := by
  rw [handle_eq_finish (governs.load context world), decide_eq]
  cases staged : rule.staged? (rule.stored? world.store) world.now.time with
  | none => exact ⟨_, _, finish_skip _ _, .passed staged⟩
  | some write =>
    have something : (rule.staged? (rule.stored? world.store) world.now.time).isSome := by
      rw [staged]
      rfl
    cases unset : world.store.failNextCommit with
    | true => exact ⟨_, _, finish_of_failNext _ _ _ unset, .refused something unset⟩
    | false =>
      obtain ⟨row, owns, next, shown, taken⟩ := governs.lawful.write_staged staged
      refine ⟨_, _, finish_stage _ _ unset, ?_⟩
      rw [taken, Option.getD_some]
      exact .wrote something unset owns next shown

end Rule.Governs

/-- A store in which a row of a rule was placed has it where the rule looks. -/
theorem Rule.stored?_placed {row : σ} (owns : Snapshot.id row = rule.id) (tables : Tables)
    (commits : Nat) :
    rule.stored? (Shelf.withRows (placed (Shelf.rows tables) row) commits tables) = some row := by
  rw [Rule.stored?, Shelf.rows_withRows, Tables.find?_placed, if_pos owns]

/-- Handling leaves the next row, unless the commit is refused. -/
theorem Rule.Effect.stored? {context : MessageContext} {tables after : Tables} {now : Instant}
    {result : Except InboxError Outcome} (effect : rule.Effect context tables now result after)
    (unset : tables.failNextCommit = false) :
    result = .ok (rule.outcome (rule.stored? tables)) ∧ after.failNextCommit = false ∧
      rule.stored? after = rule.next (rule.stored? tables) now := by
  cases effect with
  | passed nothing => exact ⟨rfl, unset, (next_of_staged?_eq_none nothing).symm⟩
  | refused _ set =>
    rw [unset] at set
    cases set
  | wrote _ _ owns next _ =>
    exact ⟨rfl, (Shelf.failNextCommit_withRows _ _ _).trans unset,
      (stored?_placed owns _ _).trans next.symm⟩

end Rules

theorem SensorRuling.governs {rule : Rule SensorSnapshot .sensor}
    (ruling : SensorRuling policy message rule) : rule.Governs policy message :=
  ⟨ruling.lawful, ruling.plan⟩

theorem OwnerRuling.governs {rule : Rule OwnerSnapshot .owner}
    (ruling : OwnerRuling policy message rule) : rule.Governs policy message :=
  ⟨ruling.lawful, ruling.plan⟩

end Fieldwatch.Inbox
