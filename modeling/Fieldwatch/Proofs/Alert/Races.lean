import Mathlib.Logic.Relation
import Fieldwatch.Proofs.Alert.History
import Fieldwatch.Proofs.Ingest.Stored
import Fieldwatch.Proofs.Store.Alerts

/-!
# Races for alerts

Calls on alerts overlap: a call loads its copy and saves it later, and anything may have been saved
in between. Only a save from a copy at the stored version is taken, so each save adds one event to
the history of the row that is there, and the staged entries keep step with that history.
-/
namespace Fieldwatch.Alerts

open Alert (eventsOf)
open Ingest (Commits Fresh Stored)

/-! ## Calls in parts -/

/-- A part of a call that is made at once. -/
inductive Part
  | raise (input : NewAlert)
  | load (id : EntityId)
  | acknowledge (copy : Alert)
  | resolve (copy : Alert) (notes : Option String)

namespace Part

def run (part : Part) (context : OperationContext) : Task Tables IngestError Alert :=
  match part with
  | raise input => Alerts.raise input context
  | load id => Alerts.load id
  | acknowledge copy => Alerts.acknowledgeLoaded copy context
  | resolve copy notes => Alerts.resolveLoaded copy notes context

def copy? : Part → Option Alert
  | raise _ | load _ => none
  | acknowledge copy | resolve copy _ => some copy

def loads : Part → Except IngestError Alert → List Alert
  | load _, .ok copy => [copy]
  | _, _ => []

end Part

/-- A store, and the copies that were loaded from it so far. -/
structure State where
  world : World Tables
  copies : List Alert

/-- One part of some call, or a pause between two of them. -/
inductive AlertStep : State → State → Prop
  | pause {world copies} (clock : Clock) (drawn : Nat) (failing : Bool) :
    AlertStep ⟨world, copies⟩ ⟨world.pause clock drawn failing, copies⟩
  | call {world after copies context result} {part : Part}
    (held : ∀ copy, part.copy? = some copy → copy ∈ copies)
    (ran : part.run context world = (result, after)) :
    AlertStep ⟨world, copies⟩ ⟨after, part.loads result ++ copies⟩

abbrev AlertSteps : State → State → Prop := Relation.ReflTransGen AlertStep

/-- A part that fails leaves what the store holds as it is. -/
theorem Part.run_atomic (part : Part) (context : OperationContext) :
    (part.run context).Atomic := by
  cases part with
  | raise input => exact Ingest.raise_atomic input context
  | load id => exact .of_readsOnly (Ingest.load_readsOnly id)
  | acknowledge copy => exact Ingest.acknowledgeLoaded_atomic copy context
  | resolve copy notes => exact Ingest.resolveLoaded_atomic copy notes context

section Whole

variable {id : EntityId} {context : OperationContext} {world after : World Tables}
  {copies : List Alert} {result : Except IngestError Alert}

/-- A call that loads a copy and works on it is made of these two parts. -/
theorem load_then_steps {next : Alert → Part}
    (own : ∀ copy other, (next copy).copy? = some other → other = copy)
    (ran : (load id >>= fun copy => (next copy).run context) world = (result, after)) :
    ∃ held, AlertSteps ⟨world, copies⟩ ⟨after, held⟩ := by
  rcases loaded : load id world with ⟨found, middle⟩
  have loading : AlertStep ⟨world, copies⟩ ⟨middle, Part.loads (.load id) found ++ copies⟩ :=
    @AlertStep.call world middle copies context found (.load id) (by rintro _ ⟨⟩) loaded
  cases found with
  | error error =>
    rw [Task.bind_of_error loaded] at ran
    cases ran
    exact ⟨_, .single loading⟩
  | ok copy =>
    rw [Task.bind_of_ok loaded] at ran
    refine ⟨_, .tail (.single loading) (.call ?_ ran)⟩
    intro other works
    rw [own copy other works]
    exact List.mem_cons_self

theorem acknowledge_steps (ran : acknowledge id context world = (result, after)) :
    ∃ held, AlertSteps ⟨world, copies⟩ ⟨after, held⟩ := by
  change (load id >>= fun copy => (Part.acknowledge copy).run context) world = _ at ran
  refine load_then_steps ?_ ran
  rintro copy other ⟨⟩
  rfl

theorem resolve_steps {notes : Option String}
    (ran : resolve id notes context world = (result, after)) :
    ∃ held, AlertSteps ⟨world, copies⟩ ⟨after, held⟩ := by
  change (load id >>= fun copy => (Part.resolve copy notes).run context) world = _ at ran
  refine load_then_steps ?_ ran
  rintro copy other ⟨⟩
  rfl

end Whole

end Fieldwatch.Alerts
