import Mathlib.Data.Prod.Lex
import Mathlib.Logic.Relation
import Fieldwatch.Pipeline.Basic
import Fieldwatch.Proofs.Broker.Recent

/-!
# The stop signal

The relay loop listens to two ticks and a signal, and looks at none of them within a pass. Beside it
others work with the broker and the store, signals are sent, and someone may shut down: the loop is
told to stop, it is waited for, and only then the broker is closed. Whatever comes when, a pass that
was begun is gone through to its end, the broker refuses it nothing, and no pass begins after the
loop has left.
-/
namespace Fieldwatch

namespace Broker

variable {ι : Type}

theorem accept_keeps {broker accepted : Broker ι} {envelope : Envelope}
    {parcels : List (Parcel ι)} (taken : broker.accept envelope = .ok (accepted, parcels)) :
    accepted.policy = broker.policy ∧ accepted.isClosed = broker.isClosed := by
  rw [Broker.accept] at taken
  split at taken
  · cases taken
  · cases taken
    exact ⟨rfl, rfl⟩

/-- What is tried again is tried once more only as often as the policy says. -/
theorem deliver_again {ω σ : Type} [Hosts ω σ] {handle : Handler ι ω} {parcel : Parcel ι}
    {state after : Broker ι × ω} {again : Option (Parcel ι)}
    (delivered : deliver handle parcel state = (again, after)) :
    ∀ next ∈ again, parcel.attempt < state.1.policy.maxAttempts ∧
      next.attempt = parcel.attempt + 1 := by
  obtain ⟨broker, shared⟩ := state
  obtain ⟨_, _, _, deliveredToo, counted, -⟩ := deliver_cases handle parcel broker shared
  cases delivered.symm.trans deliveredToo
  exact counted

end Broker

namespace Stopping

/-! ## The loop and what goes on beside it -/

/-- What the loop is told through. -/
structure Signal where
  /-- The value that was sent last. -/
  value : Bool := false
  /-- Whether something was sent that the loop did not see yet. -/
  unseen : Bool := false
  /-- Whether the sender is gone. -/
  dropped : Bool := false

/-- Where the loop is. -/
inductive Place (ι : Type)
  | starting
  /-- It waits for a tick or a signal. -/
  | listening
  /-- It saw that something was sent, and is to look what. -/
  | looking
  /-- Within a pass, it goes on with these entries. -/
  | passing (rest : List OutboxEntry)
  /-- The broker has an entry, and parcels of it are still on their way. -/
  | delivering (entry : OutboxEntry) (parcels : List (Parcel ι)) (rest : List OutboxEntry)
  /-- The broker answered for an entry, which is to be written down. -/
  | settling (entry : OutboxEntry) (result : Except BrokerError Unit) (rest : List OutboxEntry)
  | left
  | broken

def Place.IsWithin {ι : Type} : Place ι → Prop
  | passing _ | delivering _ _ _ | settling _ _ _ => True
  | _ => False

/-- How far a shutdown has come. -/
inductive Closing
  | running
  /-- The loop was told to stop and is waited for. -/
  | joining
  | closed
  deriving DecidableEq

/-- What happened, as far as it is noted. -/
inductive Note
  /-- A pass began with the entries that it took. -/
  | began (entries : List OutboxEntry)
  /-- The broker answered for an entry. -/
  | answered (entry : OutboxEntry) (result : Except BrokerError Unit)
  /-- The answer was written down. -/
  | marked (entry : OutboxEntry) (result : Except BrokerError Unit)
  /-- The store failed to write the answer down. -/
  | unmarked (entry : OutboxEntry) (error : StoreError)
  /-- A pass ended. -/
  | ended
  /-- The loop left. -/
  | left
  /-- The broker was closed by the shutdown. -/
  | closed

structure Situation (ι ω : Type) where
  /-- The broker and what its subscribers share. -/
  state : Broker ι × ω
  place : Place ι
  signal : Signal
  closing : Closing
  /-- What happened so far, the oldest first. -/
  notes : List Note

/-- The situation of a loop that is about to start. -/
def Situation.first {ι ω : Type} (state : Broker ι × ω) : Situation ι ω :=
  ⟨state, .starting, {}, .running, []⟩

section Loop

variable {ι ω σ : Type} [Backend σ] [Hosts ω σ]

/-- What the loop does without a look at the signal, and the notes of it. -/
inductive Advance (handle : Broker.Handler ι ω) (plan : LoopPlan) :
    Broker ι × ω → Place ι → List Note → Broker ι × ω → Place ι → Prop
  | begin {state} (timed : plan.period ≠ 0) :
    Advance handle plan state .starting [] state .listening
  | breakDown {state} (untimed : plan.period = 0) :
    Advance handle plan state .starting [] state .broken
  | poll {state after entries}
    (fetched : Hosts.run (plan.relay.fetch plan.batch) state = (.ok entries, after)) :
    Advance handle plan state .listening [.began entries] after (.passing entries)
  /-- A pass that could not take its entries has none to go through. -/
  | pollFails {state after error}
    (failed : Hosts.run (plan.relay.fetch plan.batch) state = (.error error, after)) :
    Advance handle plan state .listening [.began []] after (.passing [])
  | prune {state after count} (kept : plan.relay.retention.isSome)
    (pruned : Hosts.run plan.relay.prune state = (count, after)) :
    Advance handle plan state .listening [] after .listening
  | hand {broker shared accepted entry parcels rest}
    (taken : broker.accept entry.envelope = .ok (accepted, parcels)) :
    Advance handle plan (broker, shared) (.passing (entry :: rest)) [] (accepted, shared)
      (.delivering entry parcels rest)
  | refused {broker shared entry rest error}
    (closed : broker.accept entry.envelope = .error error) :
    Advance handle plan (broker, shared) (.passing (entry :: rest))
      [.answered entry (.error error)] (broker, shared) (.settling entry (.error error) rest)
  /-- Any parcel that is on its way may be the next. -/
  | attempt {state after entry before parcel again later rest}
    (delivered : Broker.deliver handle parcel state = (again, after)) :
    Advance handle plan state (.delivering entry (before ++ parcel :: later) rest) [] after
      (.delivering entry (before ++ again.toList ++ later) rest)
  | delivered {state entry rest} :
    Advance handle plan state (.delivering entry [] rest) [.answered entry (.ok ())] state
      (.settling entry (.ok ()) rest)
  | mark {state after entry result rest}
    (settled : Hosts.run (Relay.settle entry result) state = (.ok (), after)) :
    Advance handle plan state (.settling entry result rest) [.marked entry result] after
      (.passing rest)
  /-- A failure of the store ends the pass. -/
  | lose {state after entry result rest error}
    (failed : Hosts.run (Relay.settle entry result) state = (.error error, after)) :
    Advance handle plan state (.settling entry result rest) [.unmarked entry error, .ended] after
      .listening
  | finish {state} : Advance handle plan state (.passing []) [.ended] state .listening

/-- What may happen next: to the loop, among the others who work with the broker and the store, and
to the signal. The broker is closed by the shutdown alone. -/
inductive LoopStep (handle : Broker.Handler ι ω) (plan : LoopPlan)
    (others : Broker ι × ω → Broker ι × ω → Prop) : Situation ι ω → Situation ι ω → Prop
  | advance {state place more after next signal closing notes}
    (advance : Advance handle plan state place more after next) :
    LoopStep handle plan others ⟨state, place, signal, closing, notes⟩
      ⟨after, next, signal, closing, notes ++ more⟩
  | look {state value dropped closing notes} :
    LoopStep handle plan others ⟨state, .listening, ⟨value, true, dropped⟩, closing, notes⟩
      ⟨state, .looking, ⟨value, false, dropped⟩, closing, notes⟩
  /-- A signal that does not say to stop is passed over. -/
  | stay {state unseen dropped closing notes} :
    LoopStep handle plan others ⟨state, .looking, ⟨false, unseen, dropped⟩, closing, notes⟩
      ⟨state, .listening, ⟨false, unseen, dropped⟩, closing, notes⟩
  | leave {state unseen dropped closing notes} :
    LoopStep handle plan others ⟨state, .looking, ⟨true, unseen, dropped⟩, closing, notes⟩
      ⟨state, .left, ⟨true, unseen, dropped⟩, closing, notes ++ [.left]⟩
  /-- Without a sender there is nothing to wait for. -/
  | abandon {state value closing notes} :
    LoopStep handle plan others ⟨state, .listening, ⟨value, false, true⟩, closing, notes⟩
      ⟨state, .left, ⟨value, false, true⟩, closing, notes ++ [.left]⟩
  | work {state after place signal closing notes} (works : others state after)
    (policy_eq : after.1.policy = state.1.policy)
    (isClosed_eq : after.1.isClosed = state.1.isClosed) :
    LoopStep handle plan others ⟨state, place, signal, closing, notes⟩
      ⟨after, place, signal, closing, notes⟩
  | tell {state place last unseen closing notes} (value : Bool) :
    LoopStep handle plan others ⟨state, place, ⟨last, unseen, false⟩, closing, notes⟩
      ⟨state, place, ⟨value, true, false⟩, closing, notes⟩
  | drop {state place signal closing notes} :
    LoopStep handle plan others ⟨state, place, signal, closing, notes⟩
      ⟨state, place, { signal with dropped := true }, closing, notes⟩
  | shutDown {state place last unseen notes} :
    LoopStep handle plan others ⟨state, place, ⟨last, unseen, false⟩, .running, notes⟩
      ⟨state, place, ⟨true, true, false⟩, .joining, notes⟩
  /-- The broker is closed when the loop is over. -/
  | close {broker shared place signal notes} (finished : place = .left ∨ place = .broken) :
    LoopStep handle plan others ⟨(broker, shared), place, signal, .joining, notes⟩
      ⟨(broker.close, shared), place, signal, .closed, notes ++ [.closed]⟩

/-- Any number of things that happen one after the other. -/
abbrev LoopSteps (handle : Broker.Handler ι ω) (plan : LoopPlan)
    (others : Broker ι × ω → Broker ι × ω → Prop) : Situation ι ω → Situation ι ω → Prop :=
  Relation.ReflTransGen (LoopStep handle plan others)

/-- Nobody but the loop works with the broker and the store. -/
def Nobody (_ _ : Broker ι × ω) : Prop := False

/-! ## What stays as it is -/

variable {handle : Broker.Handler ι ω} {plan : LoopPlan}
  {others : Broker ι × ω → Broker ι × ω → Prop}

/-- What the loop does leaves the broker with its policy, and as open as it was. -/
theorem Advance.keeps {state after : Broker ι × ω} {place next : Place ι} {more : List Note}
    (advance : Advance handle plan state place more after next) :
    after.1.policy = state.1.policy ∧ after.1.isClosed = state.1.isClosed := by
  cases advance with
  | begin | breakDown | refused | delivered | finish => exact ⟨rfl, rfl⟩
  | poll ran | pollFails ran | prune _ ran | mark ran | lose ran =>
    -- a task runs on the world alone
    obtain rfl := congrArg Prod.snd ran
    exact ⟨rfl, rfl⟩
  | hand taken => exact Broker.accept_keeps taken
  | @attempt _ _ _ _ parcel _ _ _ delivered =>
    have changed := Broker.deliver_lettersOnly handle parcel state
    rw [delivered] at changed
    exact ⟨changed.policy_eq, changed.isClosed_eq⟩

theorem LoopStep.policy_eq {situation next : Situation ι ω}
    (step : LoopStep handle plan others situation next) :
    next.state.1.policy = situation.state.1.policy := by
  cases step with
  | advance advance => exact advance.keeps.1
  | work _ policy_eq _ => exact policy_eq
  | look | stay | leave | abandon | tell | drop | shutDown | close => rfl

theorem LoopStep.notes_subset {situation next : Situation ι ω}
    (step : LoopStep handle plan others situation next) : situation.notes ⊆ next.notes := by
  cases step with
  | advance | leave | abandon | close => exact List.subset_append_left _ _
  | look | stay | work | tell | drop | shutDown => exact List.Subset.refl _

/-- Where fewer work beside the loop, less may happen. -/
theorem LoopSteps.mono {more : Broker ι × ω → Broker ι × ω → Prop}
    (among : ∀ state after, others state after → more state after) {situation next : Situation ι ω}
    (steps : LoopSteps handle plan others situation next) :
    LoopSteps handle plan more situation next := by
  refine Relation.ReflTransGen.mono (fun _ _ step => ?_) _ _ steps
  cases step with
  | advance advance => exact .advance advance
  | look => exact .look
  | stay => exact .stay
  | leave => exact .leave
  | abandon => exact .abandon
  | work works policy_eq isClosed_eq => exact .work (among _ _ works) policy_eq isClosed_eq
  | tell value => exact .tell value
  | drop => exact .drop
  | shutDown => exact .shutDown
  | close finished => exact .close finished

/-! ## What the notes tell -/

/-- What is noted of an entry that was published. -/
def notesOf (entry : OutboxEntry) : List Note :=
  [.answered entry (.ok ()), .marked entry (.ok ())]

/-- What is noted of a pass that has come past some of its entries. -/
def notesUpTo (worked rest : List OutboxEntry) : List Note :=
  .began (worked ++ rest) :: worked.flatMap notesOf

/-- What is noted of a pass that went through all its entries. -/
def notesThrough (entries : List OutboxEntry) : List Note :=
  notesUpTo entries [] ++ [.ended]

/-- What was noted since the last pass ended, at a place of the loop. -/
inductive Tells : Place ι → Closing → List Note → Prop
  | starting {closing} (unclosed : closing ≠ .closed) : Tells .starting closing []
  | listening {closing} (unclosed : closing ≠ .closed) : Tells .listening closing []
  | looking {closing} (unclosed : closing ≠ .closed) : Tells .looking closing []
  | passing {closing} (worked rest : List OutboxEntry) (unclosed : closing ≠ .closed) :
    Tells (.passing rest) closing (notesUpTo worked rest)
  | delivering {closing entry parcels} (worked rest : List OutboxEntry)
    (unclosed : closing ≠ .closed) :
    Tells (.delivering entry parcels rest) closing (notesUpTo worked (entry :: rest))
  | settling {closing entry} (worked rest : List OutboxEntry) (unclosed : closing ≠ .closed) :
    Tells (.settling entry (.ok ()) rest) closing
      (notesUpTo worked (entry :: rest) ++ [.answered entry (.ok ())])
  | left {closing} (unclosed : closing ≠ .closed) : Tells .left closing [.left]
  | closed : Tells .left .closed [.left, .closed]

/-- Whether all passes so far were gone through to the end, but for the one that the loop is within,
and the broker is closed exactly when the shutdown has closed it. -/
structure GoneThrough (situation : Situation ι ω) : Prop where
  told : ∃ (passes : List (List OutboxEntry)) (latest : List Note),
    situation.notes = passes.flatMap notesThrough ++ latest ∧
      Tells situation.place situation.closing latest
  isClosed_iff : situation.state.1.isClosed = true ↔ situation.closing = .closed

/-- Whether the store wrote down every answer. -/
def AllMarked (notes : List Note) : Prop :=
  ∀ entry error, .unmarked entry error ∉ notes

theorem AllMarked.nil : AllMarked [] := fun _ _ => List.not_mem_nil

theorem AllMarked.singleton {note : Note} (other : ∀ entry error, note ≠ .unmarked entry error) :
    AllMarked [note] := fun entry error member =>
  other entry error (List.mem_singleton.mp member).symm

theorem AllMarked.append {first second : List Note} (before : AllMarked first)
    (after : AllMarked second) : AllMarked (first ++ second) := fun entry error member =>
  (List.mem_append.mp member).elim (before entry error) (after entry error)

theorem GoneThrough.first {state : Broker ι × ω} (isOpen : state.1.isClosed = false) :
    GoneThrough (.first state) := by
  refine ⟨⟨[], [], rfl, .starting (by rintro ⟨⟩)⟩, ?_⟩
  exact iff_of_false (Bool.eq_false_iff.mp isOpen) (by rintro ⟨⟩)

theorem notesUpTo_append (worked rest : List OutboxEntry) (entry : OutboxEntry) :
    notesUpTo worked (entry :: rest) ++ [.answered entry (.ok ()), .marked entry (.ok ())] =
      notesUpTo (worked ++ [entry]) rest := by
  simp [notesUpTo, notesOf]

/-- What the loop does goes on with the pass that it is within, or ends it. -/
theorem Tells.advance (timed : plan.period ≠ 0) {state after : Broker ι × ω} {place next : Place ι}
    {closing : Closing} {latest more : List Note} (tells : Tells place closing latest)
    (isOpen : closing ≠ .closed → state.1.isClosed = false) (marked : AllMarked more)
    (advance : Advance handle plan state place more after next) :
    ∃ (ended : List (List OutboxEntry)) (latestNow : List Note),
      latest ++ more = ended.flatMap notesThrough ++ latestNow ∧ Tells next closing latestNow := by
  cases advance with
  | begin =>
    obtain unclosed | _ := tells
    exact ⟨[], [], rfl, .listening unclosed⟩
  | breakDown untimed => exact absurd untimed timed
  | @poll _ _ entries =>
    obtain _ | unclosed := tells
    exact ⟨[], _, rfl, .passing [] entries unclosed⟩
  | pollFails =>
    obtain _ | unclosed := tells
    exact ⟨[], _, rfl, .passing [] [] unclosed⟩
  | prune =>
    obtain _ | unclosed := tells
    exact ⟨[], [], rfl, .listening unclosed⟩
  | hand =>
    obtain _ | _ | _ | ⟨worked, _, unclosed⟩ := tells
    exact ⟨[], _, List.append_nil _, .delivering worked _ unclosed⟩
  | refused refused =>
    obtain _ | _ | _ | ⟨worked, _, unclosed⟩ := tells
    rw [Broker.accept_of_open (isOpen unclosed)] at refused
    cases refused
  | attempt =>
    obtain _ | _ | _ | _ | ⟨worked, _, unclosed⟩ := tells
    exact ⟨[], _, List.append_nil _, .delivering worked _ unclosed⟩
  | delivered =>
    obtain _ | _ | _ | _ | ⟨worked, _, unclosed⟩ := tells
    exact ⟨[], _, rfl, .settling worked _ unclosed⟩
  | @mark _ _ entry _ rest =>
    obtain _ | _ | _ | _ | _ | ⟨worked, _, unclosed⟩ := tells
    refine ⟨[], _, ?_, .passing (worked ++ [entry]) rest unclosed⟩
    rw [List.append_assoc]
    exact notesUpTo_append worked rest entry
  | lose => exact absurd List.mem_cons_self (marked _ _)
  | finish =>
    obtain _ | _ | _ | ⟨worked, _, unclosed⟩ := tells
    refine ⟨[worked], [], ?_, .listening unclosed⟩
    rw [List.flatMap_singleton, List.append_nil]
    rfl

theorem Tells.joining {place : Place ι} {latest : List Note} (tells : Tells place .running latest) :
    Tells place .joining latest := by
  have unclosed : Closing.joining ≠ .closed := by decide
  cases tells with
  | starting => exact .starting unclosed
  | listening => exact .listening unclosed
  | looking => exact .looking unclosed
  | passing worked rest => exact .passing worked rest unclosed
  | delivering worked rest => exact .delivering worked rest unclosed
  | settling worked rest => exact .settling worked rest unclosed
  | left => exact .left unclosed

/-- Whatever happens leaves things in order, as long as the store writes the answers down. -/
theorem GoneThrough.step (timed : plan.period ≠ 0) {situation next : Situation ι ω}
    (through : GoneThrough situation) (step : LoopStep handle plan others situation next)
    (marked : AllMarked next.notes) : GoneThrough next := by
  obtain ⟨⟨passes, latest, notes, tells⟩, isClosed_iff⟩ := through
  cases step with
  | @advance state place more after next signal closing earlier advance =>
    have isOpen (unclosed : closing ≠ .closed) : state.1.isClosed = false :=
      Bool.eq_false_iff.mpr (mt isClosed_iff.mp unclosed)
    obtain ⟨ended, latestNow, grown, tellsNow⟩ := tells.advance timed isOpen
      (fun entry error member => marked entry error (List.mem_append_right _ member)) advance
    refine ⟨⟨passes ++ ended, latestNow, ?_, tellsNow⟩, ?_⟩
    · rw [show earlier = _ from notes, List.append_assoc, grown, List.flatMap_append,
        List.append_assoc]
    · rw [advance.keeps.2]
      exact isClosed_iff
  | look =>
    obtain _ | unclosed := tells
    exact ⟨⟨passes, [], notes, .looking unclosed⟩, isClosed_iff⟩
  | stay =>
    obtain _ | _ | unclosed := tells
    exact ⟨⟨passes, [], notes, .listening unclosed⟩, isClosed_iff⟩
  | @leave _ _ _ _ earlier =>
    obtain _ | _ | unclosed := tells
    rw [List.append_nil] at notes
    exact ⟨⟨passes, [.left], congrArg (· ++ _) notes, .left unclosed⟩, isClosed_iff⟩
  | abandon =>
    obtain _ | unclosed := tells
    rw [List.append_nil] at notes
    exact ⟨⟨passes, [.left], congrArg (· ++ _) notes, .left unclosed⟩, isClosed_iff⟩
  | work _ _ isClosed_eq =>
    refine ⟨⟨passes, latest, notes, tells⟩, ?_⟩
    rw [isClosed_eq]
    exact isClosed_iff
  | tell value => exact ⟨⟨passes, latest, notes, tells⟩, isClosed_iff⟩
  | drop => exact ⟨⟨passes, latest, notes, tells⟩, isClosed_iff⟩
  | shutDown =>
    refine ⟨⟨passes, latest, notes, tells.joining⟩, ?_⟩
    exact iff_of_false (mt isClosed_iff.mp (by rintro ⟨⟩)) (by rintro ⟨⟩)
  | @close _ _ place _ _ finished =>
    obtain ⟨rfl, rfl⟩ : place = .left ∧ latest = [.left] := by
      rcases finished with rfl | rfl
      · cases tells
        exact ⟨rfl, rfl⟩
      · cases tells
    refine ⟨⟨passes, [.left, .closed], ?_, .closed⟩, iff_of_true rfl rfl⟩
    have grown := congrArg (· ++ [Note.closed]) notes
    rwa [List.append_assoc] at grown

/-- A run in which the store writes down every answer stays in order. -/
theorem GoneThrough.steps (timed : plan.period ≠ 0) {situation later : Situation ι ω}
    (through : GoneThrough situation) (steps : LoopSteps handle plan others situation later)
    (marked : AllMarked later.notes) : GoneThrough later := by
  induction steps with
  | refl => exact through
  | tail _ step ih =>
    have before := ih fun entry error member => marked entry error (step.notes_subset member)
    exact before.step timed step marked

/-! ## What order means -/

/-- Whether a note tells of a pass, and of nothing that went wrong in it. -/
def Note.IsQuiet : Note → Prop
  | began _ | answered _ (.ok _) | marked _ (.ok _) | ended => True
  | _ => False

theorem isQuiet_notesOf {entries : List OutboxEntry} {note : Note}
    (member : note ∈ entries.flatMap notesOf) : note.IsQuiet := by
  obtain ⟨entry, -, member⟩ := List.mem_flatMap.mp member
  rcases List.mem_pair.mp member with rfl | rfl <;> trivial

theorem isQuiet_notesUpTo {worked rest : List OutboxEntry} {note : Note}
    (member : note ∈ notesUpTo worked rest) : note.IsQuiet := by
  rcases List.mem_cons.mp member with rfl | member
  · trivial
  · exact isQuiet_notesOf member

theorem isQuiet_through {passes : List (List OutboxEntry)} {note : Note}
    (member : note ∈ passes.flatMap notesThrough) : note.IsQuiet := by
  obtain ⟨entries, -, member⟩ := List.mem_flatMap.mp member
  rcases List.mem_append.mp member with worked | last
  · exact isQuiet_notesUpTo worked
  · obtain rfl := List.mem_singleton.mp last
    trivial

/-- Something else is noted only when the loop has left. -/
theorem Tells.isQuiet {place : Place ι} {closing : Closing} {latest : List Note}
    (tells : Tells place closing latest) :
    (∀ note ∈ latest, note.IsQuiet) ∨ latest = [.left] ∨ latest = [.left, .closed] := by
  cases tells with
  | starting | listening | looking => exact .inl (by rintro _ ⟨⟩)
  | passing | delivering => exact .inl fun note => isQuiet_notesUpTo
  | settling =>
    refine .inl fun note member => ?_
    rcases List.mem_append.mp member with earlier | last
    · exact isQuiet_notesUpTo earlier
    · obtain rfl := List.mem_singleton.mp last
      trivial
  | left => exact .inr (.inl rfl)
  | closed => exact .inr (.inr rfl)

/-- The answer of the broker that a note tells of. -/
def Note.answer? : Note → Option (OutboxEntry × Except BrokerError Unit)
  | answered entry result => some (entry, result)
  | _ => none

/-- The answer that a note says was written down. -/
def Note.mark? : Note → Option (OutboxEntry × Except BrokerError Unit)
  | marked entry result => some (entry, result)
  | _ => none

theorem answers_eq_marks (entries : List OutboxEntry) :
    (entries.flatMap notesOf).filterMap Note.answer? =
      (entries.flatMap notesOf).filterMap Note.mark? := by
  induction entries with
  | nil => rfl
  | cons entry rest ih =>
    rw [List.flatMap_cons, List.filterMap_append, List.filterMap_append, ih]
    rfl

theorem answers_eq_marks_through (passes : List (List OutboxEntry)) :
    (passes.flatMap notesThrough).filterMap Note.answer? =
      (passes.flatMap notesThrough).filterMap Note.mark? := by
  induction passes with
  | nil => rfl
  | cons entries rest ih =>
    have same : (notesThrough entries).filterMap Note.answer? =
        (notesThrough entries).filterMap Note.mark? := by
      rw [notesThrough, List.filterMap_append, List.filterMap_append]
      exact congrArg (· ++ []) (answers_eq_marks entries)
    rw [List.flatMap_cons, List.filterMap_append, List.filterMap_append, ih, same]

namespace GoneThrough

variable {situation : Situation ι ω} (through : GoneThrough situation)
include through

/-- The broker refuses nothing, so that no refusal is written down. -/
theorem not_refused (entry : OutboxEntry) (error : BrokerError) :
    .answered entry (.error error) ∉ situation.notes ∧
      .marked entry (.error error) ∉ situation.notes := by
  obtain ⟨passes, latest, notes, tells⟩ := through.told
  have quiet {note : Note} (member : note ∈ situation.notes) :
      note.IsQuiet ∨ note = .left ∨ note = .closed := by
    rw [notes] at member
    rcases List.mem_append.mp member with earlier | now
    · exact .inl (isQuiet_through earlier)
    · rcases tells.isQuiet with quiet | rfl | rfl
      · exact .inl (quiet note now)
      · exact .inr (.inl (List.mem_singleton.mp now))
      · exact .inr (List.mem_pair.mp now)
  constructor
  · intro member
    rcases quiet member with never | ⟨⟨⟩⟩ | ⟨⟨⟩⟩
    exact never
  · intro member
    rcases quiet member with never | ⟨⟨⟩⟩ | ⟨⟨⟩⟩
    exact never

/-- Unless the loop is about to write an answer down, all answers have been. -/
theorem answers_marked
    (settled : ∀ entry result rest, situation.place ≠ .settling entry result rest) :
    situation.notes.filterMap Note.answer? = situation.notes.filterMap Note.mark? := by
  obtain ⟨passes, latest, notes, tells⟩ := through.told
  rw [notes, List.filterMap_append, List.filterMap_append, answers_eq_marks_through]
  congr 1
  generalize situation.place = place, situation.closing = closing at settled tells
  cases tells with
  | starting | listening | looking | left | closed => rfl
  | passing worked rest => exact answers_eq_marks worked
  | delivering worked rest => exact answers_eq_marks worked
  | settling worked rest => exact absurd rfl (settled _ _ _)

/-- The loop leaves between passes, and does nothing after that. -/
theorem of_left {before later : List Note} (left : situation.notes = before ++ .left :: later) :
    (∃ passes : List (List OutboxEntry), before = passes.flatMap notesThrough) ∧
      (later = [] ∨ later = [.closed]) := by
  obtain ⟨passes, latest, notes, tells⟩ := through.told
  have earlier : .left ∉ passes.flatMap notesThrough := isQuiet_through
  rw [notes] at left
  rcases tells.isQuiet with quiet | rfl | rfl
  · have member : .left ∈ passes.flatMap notesThrough ++ latest :=
      left ▸ List.mem_append_right _ List.mem_cons_self
    rcases List.mem_append.mp member with never | now
    · exact absurd never earlier
    · exact (quiet _ now).elim
  · obtain ⟨same, -, rest⟩ := (List.append_cons_inj_of_notMem earlier (by simp)).mp left
    exact ⟨⟨passes, same.symm⟩, .inl rest.symm⟩
  · obtain ⟨same, -, rest⟩ := (List.append_cons_inj_of_notMem earlier (by simp)).mp left
    exact ⟨⟨passes, same.symm⟩, .inr rest.symm⟩

/-- The broker is closed after the loop has left, at the very end. -/
theorem of_closed {before later : List Note}
    (closed : situation.notes = before ++ .closed :: later) :
    (∃ passes : List (List OutboxEntry), before = passes.flatMap notesThrough ++ [.left]) ∧
      later = [] := by
  obtain ⟨passes, latest, notes, tells⟩ := through.told
  have earlier : .closed ∉ passes.flatMap notesThrough := isQuiet_through
  rw [notes] at closed
  have member : .closed ∈ passes.flatMap notesThrough ++ latest :=
    closed ▸ List.mem_append_right _ List.mem_cons_self
  have now : .closed ∈ latest := (List.mem_append.mp member).resolve_left earlier
  rcases tells.isQuiet with quiet | rfl | rfl
  · exact (quiet _ now).elim
  · rcases List.mem_singleton.mp now with ⟨⟩
  · rw [List.append_cons] at closed
    have never : .closed ∉ passes.flatMap notesThrough ++ [.left] := by simp [earlier]
    obtain ⟨same, -, rest⟩ := (List.append_cons_inj_of_notMem never List.not_mem_nil).mp closed
    exact ⟨⟨passes, same.symm⟩, rest.symm⟩

end GoneThrough

/-! ## The rest of a pass -/

/-- What is noted of the rest of a pass, if the broker takes everything and every answer is written
down. -/
def Place.toCome : Place ι → List Note
  | passing rest => rest.flatMap notesOf ++ [.ended]
  | delivering entry _ rest => notesOf entry ++ (rest.flatMap notesOf ++ [.ended])
  | settling entry result rest => .marked entry result :: (rest.flatMap notesOf ++ [.ended])
  | _ => []

/-- What the loop does beside an open broker is what was to come. -/
theorem Advance.toCome_eq {state after : Broker ι × ω} {place next : Place ι} {more : List Note}
    (advance : Advance handle plan state place more after next) (within : place.IsWithin)
    (isOpen : state.1.isClosed = false) (marked : AllMarked more) :
    place.toCome = more ++ next.toCome := by
  cases advance with
  | begin | breakDown | poll | pollFails | prune => exact within.elim
  | refused closed =>
    rw [Broker.accept_of_open isOpen] at closed
    cases closed
  | lose => exact absurd List.mem_cons_self (marked _ _)
  | hand => simp [Place.toCome]
  | attempt | delivered | mark | finish => rfl

/-- A row of things that the loop does within a pass, and the notes of them. -/
inductive Busy (handle : Broker.Handler ι ω) (plan : LoopPlan) :
    Broker ι × ω → Place ι → List Note → Broker ι × ω → Place ι → Prop
  | refl {state place} : Busy handle plan state place [] state place
  | step {state middle after place between next now more} (within : place.IsWithin)
    (advance : Advance handle plan state place now middle between)
    (onward : Busy handle plan middle between more after next) :
    Busy handle plan state place (now ++ more) after next

namespace Busy

variable {state after : Broker ι × ω} {place next : Place ι} {more : List Note}

theorem of_advance (within : place.IsWithin)
    (advance : Advance handle plan state place more after next) :
    Busy handle plan state place more after next := by
  rw [← List.append_nil more]
  exact .step within advance .refl

theorem trans {last : Broker ι × ω} {final : Place ι} {rest : List Note}
    (first : Busy handle plan state place more after next)
    (second : Busy handle plan after next rest last final) :
    Busy handle plan state place (more ++ rest) last final := by
  induction first with
  | refl => exact second
  | step within advance _ ih =>
    rw [List.append_assoc]
    exact .step within advance (ih second)

/-- Being busy is one way for things to happen, whoever else might work. -/
theorem steps (busy : Busy handle plan state place more after next) (signal : Signal)
    (closing : Closing) (notes : List Note) :
    LoopSteps handle plan others ⟨state, place, signal, closing, notes⟩
      ⟨after, next, signal, closing, notes ++ more⟩ := by
  induction busy generalizing notes with
  | refl => rw [List.append_nil]
  | @step _ _ _ _ _ _ now _ _ advance _ ih =>
    have onward := ih (notes ++ now)
    rw [List.append_assoc] at onward
    exact .head (.advance advance) onward

/-- Beside an open broker a loop that is busy comes to what was to come, and to nothing else. -/
theorem toCome_eq (busy : Busy handle plan state place more after next)
    (isOpen : state.1.isClosed = false) (marked : AllMarked more) :
    place.toCome = more ++ next.toCome := by
  induction busy with
  | refl => rfl
  | @step _ _ _ _ _ _ now _ within advance _ ih =>
    have first : AllMarked now := fun entry error member =>
      marked entry error (List.mem_append_left _ member)
    have onward := ih (advance.keeps.2.trans isOpen) fun entry error member =>
      marked entry error (List.mem_append_right _ member)
    rw [advance.toCome_eq within isOpen first, onward, List.append_assoc]

end Busy

/-! ## The end of a pass -/

/-- How much of a pass is to come at a place, with a number of attempts at most. -/
def Place.weight (most : Nat) : Place ι → Nat ×ₗ Nat
  | passing rest => toLex (3 * rest.length, 0)
  | delivering _ parcels rest =>
    toLex (3 * rest.length + 2,
      (parcels.map fun parcel => most - parcel.attempt.toNat + 1).sum)
  | settling _ _ rest => toLex (3 * rest.length + 1, 0)
  | _ => toLex (0, 0)

/-- Within a pass the loop can go on, whatever the broker and the store answer. -/
theorem exists_advance (handle : Broker.Handler ι ω) (plan : LoopPlan) (state : Broker ι × ω)
    {place : Place ι} (within : place.IsWithin) :
    ∃ more after next, Advance handle plan state place more after next := by
  obtain ⟨broker, shared⟩ := state
  cases place with
  | passing rest =>
    cases rest with
    | nil => exact ⟨_, _, _, .finish⟩
    | cons entry rest =>
      rcases taken : broker.accept entry.envelope with error | ⟨accepted, parcels⟩
      · exact ⟨_, _, _, .refused taken⟩
      · exact ⟨_, _, _, .hand taken⟩
  | delivering entry parcels rest =>
    cases parcels with
    | nil => exact ⟨_, _, _, .delivered⟩
    | cons parcel later =>
      have first : Advance handle plan (broker, shared)
          (.delivering entry ([] ++ parcel :: later) rest) _ _ _ := .attempt rfl
      exact ⟨_, _, _, first⟩
  | settling entry result rest =>
    rcases settled : Hosts.run (Relay.settle entry result) (broker, shared) with ⟨_ | _, after⟩
    · exact ⟨_, _, _, .lose settled⟩
    · exact ⟨_, _, _, .mark settled⟩
  | starting | listening | looking | left | broken => exact within.elim

/-- Whatever the loop does within a pass, it ends the pass or less of it is to come. -/
theorem Advance.weight_lt {state after : Broker ι × ω} {place next : Place ι} {more : List Note}
    (advance : Advance handle plan state place more after next) (within : place.IsWithin) :
    next = .listening ∨ next.IsWithin ∧
      next.weight state.1.policy.maxAttempts.toNat <
        place.weight state.1.policy.maxAttempts.toNat := by
  cases advance with
  | begin | breakDown | poll | pollFails | prune => exact within.elim
  | hand | refused =>
    refine .inr ⟨trivial, ?_⟩
    simp only [Place.weight, Prod.Lex.toLex_lt_toLex, List.length_cons]
    omega
  | @attempt _ _ _ before parcel again later _ delivered =>
    refine .inr ⟨trivial, ?_⟩
    have counted := Broker.deliver_again delivered
    refine Prod.Lex.toLex_lt_toLex.mpr (.inr ⟨rfl, ?_⟩)
    simp only [List.map_append, List.sum_append, List.map_cons, List.sum_cons]
    cases again with
    | none =>
      simp
    | some next =>
      obtain ⟨few, numbered⟩ := counted next rfl
      have one := toNat_add_one_of_lt few
      have below := UInt32.lt_iff_toNat_lt.mp few
      simp only [Option.toList_some, List.map_cons, List.map_nil, List.sum_cons, List.sum_nil,
        numbered, one]
      omega
  | delivered | mark =>
    refine .inr ⟨trivial, ?_⟩
    simp only [Place.weight, Prod.Lex.toLex_lt_toLex]
    omega
  | lose | finish => exact .inl rfl

/-- Within a pass nothing but what the loop does moves it on. -/
theorem LoopStep.place_eq {situation next : Situation ι ω}
    (step : LoopStep handle plan others situation next)
    (within : situation.place.IsWithin) :
    (∃ more, Advance handle plan situation.state situation.place more next.state next.place) ∨
      next.place = situation.place := by
  cases step with
  | advance advance => exact .inl ⟨_, advance⟩
  | look | stay | leave | abandon => exact within.elim
  | work | tell | drop | shutDown | close => exact .inr rfl

section Endless

variable {run : Nat → Situation ι ω}
  (steps : ∀ count, LoopStep handle plan others (run count) (run (count + 1)))

/-- Whether the loop does something at a time of a run. -/
def AdvancesAt (handle : Broker.Handler ι ω) (plan : LoopPlan) (run : Nat → Situation ι ω)
    (count : Nat) : Prop :=
  ∃ more, Advance handle plan (run count).state (run count).place more (run (count + 1)).state
    (run (count + 1)).place

include steps

theorem waits_for_advance {count gap : Nat} (within : (run count).place.IsWithin)
    (advances : AdvancesAt handle plan run (count + gap)) :
    ∃ later, count ≤ later ∧ AdvancesAt handle plan run later ∧
      (run later).place = (run count).place ∧
      (run later).state.1.policy = (run count).state.1.policy := by
  induction gap generalizing count with
  | zero => exact ⟨count, Nat.le_refl _, advances, rfl, rfl⟩
  | succ gap ih =>
    rcases (steps count).place_eq within with now | still
    · exact ⟨count, Nat.le_refl _, now, rfl, rfl⟩
    · rw [← Nat.add_assoc, Nat.add_right_comm] at advances
      obtain ⟨later, after, goesOn, place, policy⟩ := ih (still ▸ within) advances
      exact ⟨later, by omega, goesOn, place.trans still,
        policy.trans (steps count).policy_eq⟩

/-- A pass comes to its end, if only the loop goes on within it, whatever else happens meanwhile. -/
theorem pass_ends
    (goesOn : ∀ count, (run count).place.IsWithin →
      ∃ later, count ≤ later ∧ AdvancesAt handle plan run later)
    (count : Nat) (within : (run count).place.IsWithin) :
    ∃ later, count ≤ later ∧ (run later).place = .listening := by
  generalize weighs : (run count).place.weight (run count).state.1.policy.maxAttempts.toNat = weight
  induction weight using WellFoundedLT.induction generalizing count with
  | ind weight ih =>
    obtain ⟨future, after, advances⟩ := goesOn count within
    obtain ⟨gap, rfl⟩ := Nat.exists_eq_add_of_le after
    obtain ⟨later, waited, ⟨more, advance⟩, place, policy⟩ :=
      waits_for_advance steps within advances
    rcases advance.weight_lt (place ▸ within) with ended | ⟨still, less⟩
    · exact ⟨later + 1, by omega, ended⟩
    · rw [place, policy, weighs, ← policy, ← (steps later).policy_eq] at less
      obtain ⟨last, passed, ended⟩ := ih _ less (later + 1) still rfl
      exact ⟨last, by omega, ended⟩

end Endless
end Loop
end Stopping
end Fieldwatch
