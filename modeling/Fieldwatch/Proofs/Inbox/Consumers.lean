import Fieldwatch.Proofs.Frame
import Fieldwatch.Proofs.Inbox.Effects

/-!
# Competing consumers

Consumers that share a store handle events at the same time: each loads an event and decides on it,
and finishes it later, when others may have been loaded and finished in between. A run is a list of
moves, each of any of them; what holds after a run is shown move by move, with
`Consumers.run_of_move`.
-/
namespace Fieldwatch.Inbox

/-- An event that a consumer has loaded and decided on. -/
structure Pending where
  decided : Decided
  context : MessageContext

/-- A store with its consumers: the events under way, in the order in which they were loaded, and
the answers on those that are finished. -/
structure Consumers where
  world : World Tables
  underway : List Pending := []
  answers : List (Except InboxError Outcome) := []

/-- What may happen next. -/
inductive Move
  /-- The clock is set, others draw identifiers, and the next commit is set to fail or not. -/
  | pause (clock : Clock) (drawn : Nat) (failing : Bool)
  /-- A consumer loads an event. -/
  | load (policy : StalenessPolicy) (message : Message) (context : MessageContext)
  /-- A consumer finishes the event at a place among those under way. -/
  | finish (place : Nat)

def Move.isLoad : Move → Bool
  | load .. => true
  | _ => false

namespace Consumers

variable {consumers : Consumers}

def load (consumers : Consumers) (policy : StalenessPolicy) (message : Message)
    (context : MessageContext) : Consumers :=
  match Inbox.load (Plan.ofMessage policy message) context consumers.world with
  | (.ok decided, world) =>
    { consumers with world, underway := consumers.underway ++ [⟨decided, context⟩] }
  | (.error error, world) =>
    { consumers with world, answers := consumers.answers ++ [.error error] }

def finish (consumers : Consumers) (place : Nat) : Consumers :=
  match consumers.underway[place]? with
  | some pending =>
    let (answer, world) := Inbox.finish pending.decided pending.context consumers.world
    { world, underway := consumers.underway.eraseIdx place,
      answers := consumers.answers ++ [answer] }
  | none => consumers

def move (consumers : Consumers) : Move → Consumers
  | .pause clock drawn failing =>
    { consumers with world := consumers.world.pause clock drawn failing }
  | .load policy message context => consumers.load policy message context
  | .finish place => consumers.finish place

def run (consumers : Consumers) (moves : List Move) : Consumers := moves.foldl move consumers

theorem run_append (consumers : Consumers) (earlier later : List Move) :
    consumers.run (earlier ++ later) = (consumers.run earlier).run later :=
  List.foldl_append

/-- What holds at the start of a run and is kept by each of its moves holds at its end. -/
theorem run_of_move {moves : List Move} (Holds : Consumers → Prop) (start : Holds consumers)
    (step : ∀ consumers, Holds consumers → ∀ move ∈ moves, Holds (consumers.move move)) :
    Holds (consumers.run moves) := by
  induction moves generalizing consumers with
  | nil => exact start
  | cons first rest ih =>
    refine ih (step consumers start first List.mem_cons_self) fun consumers holds move member => ?_
    exact step consumers holds move (List.mem_cons_of_mem _ member)

theorem load_of_ok {policy : StalenessPolicy} {message : Message} {context : MessageContext}
    {decided : Decided} {world : World Tables}
    (loaded : Inbox.load (Plan.ofMessage policy message) context consumers.world =
      (.ok decided, world)) :
    consumers.load policy message context =
      { consumers with world, underway := consumers.underway ++ [⟨decided, context⟩] } := by
  rw [load, loaded]

theorem finish_of_eq {place : Nat} {pending : Pending} {answer : Except InboxError Outcome}
    {world : World Tables} (there : consumers.underway[place]? = some pending)
    (finished : Inbox.finish pending.decided pending.context consumers.world = (answer, world)) :
    consumers.finish place = ⟨world, consumers.underway.eraseIdx place,
      consumers.answers ++ [answer]⟩ := by
  rw [finish, there]
  simp only [finished]

theorem finish_of_none {place : Nat} (nothing : consumers.underway[place]? = none) :
    consumers.finish place = consumers := by
  rw [finish, nothing]

/-- Nothing is finished, or one of the events under way is, and it leaves them and leaves its
answer. -/
theorem finish_cases (consumers : Consumers) (place : Nat) :
    consumers.finish place = consumers ∨
      ∃ pending ∈ consumers.underway, ∃ answer after underway,
        Inbox.finish pending.decided pending.context consumers.world = (answer, after) ∧
        underway ⊆ consumers.underway ∧
        consumers.finish place = ⟨after, underway, consumers.answers ++ [answer]⟩ := by
  cases there : consumers.underway[place]? with
  | none => exact .inl (finish_of_none there)
  | some pending =>
    exact .inr ⟨pending, List.mem_of_getElem? there, _, _, _, rfl, List.eraseIdx_subset,
      finish_of_eq there rfl⟩

/-- Every event that was loaded is under way or answered. -/
theorem length_run (consumers : Consumers) (moves : List Move) :
    (consumers.run moves).underway.length + (consumers.run moves).answers.length =
      consumers.underway.length + consumers.answers.length + moves.countP Move.isLoad := by
  induction moves generalizing consumers with
  | nil => rfl
  | cons first rest ih =>
    rw [run, List.foldl_cons, ← run, ih, List.countP_cons]
    cases first with
    | pause clock drawn failing => rfl
    | load policy message context =>
      obtain ⟨decided, clock, loaded⟩ :=
        load_answers (Plan.ofMessage policy message) context consumers.world
      rw [move, load_of_ok loaded]
      simp only [List.length_append, List.length_singleton, Move.isLoad, if_true]
      omega
    | finish place =>
      rw [move]
      cases there : consumers.underway[place]? with
      | none =>
        rw [finish_of_none there]
        rfl
      | some pending =>
        have within : place < consumers.underway.length :=
          (List.getElem?_eq_some_iff.mp there).1
        rw [finish_of_eq there rfl]
        simp only [List.length_eraseIdx_of_lt within, List.length_append, List.length_singleton,
          Move.isLoad, Bool.false_eq_true, if_false]
        omega

end Consumers

end Fieldwatch.Inbox
