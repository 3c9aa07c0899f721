import Mathlib.Algebra.GroupWithZero.Nat
import Mathlib.Data.List.Forall2
import Mathlib.Logic.Relation
import Fieldwatch.Proofs.Broker.Courses

/-!
# Deliveries side by side

The deliveries of one envelope go on side by side, and any of them may be the next that something
happens on. However they take turns, they come to an end, and then every subscriber received the
envelope until it took it or was out of attempts, and has a dead letter exactly in the second case.
-/
namespace Fieldwatch.Broker

variable {ι : Type}

/-- A broker with the deliveries of an envelope. -/
structure Spread (ι : Type) where
  broker : Broker ι
  courses : List (Course ι)

/-- Something happens on one of the courses. -/
inductive SpreadStep : Spread ι → Spread ι → Prop
  | move {broker before course added next after} (moves : course.Moves broker.policy added next) :
    SpreadStep ⟨broker, before ++ course :: after⟩
      ⟨{ broker with deadLetters := broker.deadLetters ++ added }, before ++ next :: after⟩

theorem SpreadStep.of_moves {broker : Broker ι} {course next : Course ι}
    (moves : course.Moves broker.policy [] next) (before after : List (Course ι)) :
    SpreadStep ⟨broker, before ++ course :: after⟩ ⟨broker, before ++ next :: after⟩ := by
  have step : SpreadStep ⟨broker, before ++ course :: after⟩
      ⟨{ broker with deadLetters := broker.deadLetters ++ [] }, before ++ next :: after⟩ :=
    .move moves
  rw [List.append_nil] at step
  exact step

abbrev SpreadSteps : Spread ι → Spread ι → Prop := Relation.ReflTransGen SpreadStep

theorem SpreadSteps.policy_eq {spread next : Spread ι} (steps : SpreadSteps spread next) :
    next.broker.policy = spread.broker.policy := by
  induction steps with
  | refl => rfl
  | tail _ step ih =>
    obtain ⟨moves⟩ := step
    exact ih

/-- The deliveries that begin with parcels. -/
def Spread.start (broker : Broker ι) (parcels : List (Parcel ι)) : Spread ι :=
  ⟨broker, parcels.map fun parcel => { stage := .ready parcel }⟩

def Spread.IsOver (spread : Spread ι) : Prop := ∀ course ∈ spread.courses, course.stage = .ended

/-! ## What every run keeps -/

/-- What holds of the deliveries of an envelope to subscribers at any time. The broker has changed
only by the letters that were kept. -/
structure Spread.Sound (accepted : Broker ι) (envelope : Envelope) (subscribers : List ι)
    (spread : Spread ι) : Prop where
  courses : List.Forall₂ (Course.Sound accepted.policy.most envelope) subscribers spread.courses
  letters : ∃ kept, kept.Perm (spread.courses.flatMap Course.letters) ∧
    spread.broker = { accepted with deadLetters := accepted.deadLetters ++ kept }

/-- What relates every pair still does when it relates what took the place of an item. -/
theorem forall₂_replace {α β : Type} {related : α → β → Prop} {items : List α}
    {before after : List β} {old new : β}
    (all : List.Forall₂ related items (before ++ old :: after))
    (next : ∀ item, related item old → related item new) :
    List.Forall₂ related items (before ++ new :: after) := by
  induction before generalizing items with
  | nil =>
    obtain _ | ⟨here, rest⟩ := all
    exact .cons (next _ here) rest
  | cons first before ih =>
    obtain _ | ⟨here, rest⟩ := all
    exact .cons here (ih rest)

/-- What is gathered of all items grows by what one of them gains. -/
theorem perm_flatMap_append {α β : Type} {view : β → List α} {before after : List β} {old new : β}
    {gathered gained : List α} (all : gathered.Perm ((before ++ old :: after).flatMap view))
    (grown : view new = view old ++ gained) :
    (gathered ++ gained).Perm ((before ++ new :: after).flatMap view) := by
  simp only [List.flatMap_append, List.flatMap_cons, grown] at all ⊢
  refine (all.append_right gained).trans ?_
  simp only [List.append_assoc]
  exact (List.perm_append_comm.append_left _).append_left _

variable {accepted : Broker ι} {envelope : Envelope} {subscribers : List ι}
  {spread next : Spread ι}

theorem Spread.Sound.step (sound : spread.Sound accepted envelope subscribers)
    (step : SpreadStep spread next) : next.Sound accepted envelope subscribers := by
  obtain @⟨broker, before, course, added, next, after, moves⟩ := step
  obtain ⟨courses, kept, same, left⟩ := sound
  obtain rfl : broker = _ := left
  constructor
  · exact forall₂_replace courses fun subscriber sound => sound.of_moves moves
  · refine ⟨kept ++ added, perm_flatMap_append same moves.letters_eq, ?_⟩
    simp only [List.append_assoc]

theorem Spread.Sound.steps (sound : spread.Sound accepted envelope subscribers)
    (steps : SpreadSteps spread next) : next.Sound accepted envelope subscribers := by
  induction steps with
  | refl => exact sound
  | tail _ step ih => exact ih.step step

/-- An open broker takes an envelope, and hands a parcel to each subscriber of its type. -/
theorem accept_of_open {broker : Broker ι} (isOpen : broker.isClosed = false)
    (envelope : Envelope) :
    broker.accept envelope = .ok
      ({ broker with published := logged broker.policy.logCapacity broker.published envelope },
        (broker.subscribersOf envelope.eventType).map fun subscriber =>
          ⟨envelope, subscriber, 1⟩) := by
  rw [accept, isOpen]
  rfl

theorem accept_of_closed {broker : Broker ι} (closed : broker.isClosed = true)
    (envelope : Envelope) : broker.accept envelope = .error .closed := by
  rw [accept, closed]
  rfl

theorem Spread.Sound.start (accepted : Broker ι) (envelope : Envelope) (subscribers : List ι) :
    (Spread.start accepted (subscribers.map fun subscriber => ⟨envelope, subscriber, 1⟩)).Sound
      accepted envelope subscribers := by
  constructor
  · rw [Spread.start, List.map_map, List.forall₂_map_right_iff, List.forall₂_same]
    intro subscriber _
    exact .ready .nil (Nat.lt_of_lt_of_le Nat.one_pos (Nat.le_max_left _ _))
  · refine ⟨[], ?_, by simp [Spread.start]⟩
    simp [Spread.start, List.flatMap_map]

/-! ## Every run ends -/

/-- How much may still happen on all courses together. -/
def Spread.weight (spread : Spread ι) : Nat :=
  (spread.courses.map fun course => course.stage.weight spread.broker.policy.most).sum

theorem SpreadStep.weight_lt (step : SpreadStep spread next) : next.weight < spread.weight := by
  obtain @⟨broker, before, course, added, next, after, moves⟩ := step
  have less := moves.weight_lt
  simp only [Spread.weight, List.map_append, List.map_cons, List.sum_append, List.sum_cons]
  omega

theorem no_endless_run (run : Nat → Spread ι) :
    ¬ ∀ count, SpreadStep (run count) (run (count + 1)) := by
  intro endless
  -- each step uses up some of what the run began with
  have less : ∀ count, count + (run count).weight ≤ (run 0).weight := by
    intro count
    induction count with
    | zero => omega
    | succ count ih =>
      have := (endless count).weight_lt
      omega
  have := less ((run 0).weight + 1)
  omega

theorem Spread.isOver_or_step (spread : Spread ι) :
    spread.IsOver ∨ ∃ next, SpreadStep spread next := by
  obtain ⟨broker, courses⟩ := spread
  by_cases finished : Spread.IsOver ⟨broker, courses⟩
  · exact .inl finished
  · obtain ⟨course, member, unfinished⟩ : ∃ course ∈ courses, course.stage ≠ .ended := by
      simpa [IsOver] using finished
    obtain ⟨before, after, rfl⟩ := List.append_of_mem member
    obtain finished | ⟨added, next, moves⟩ := course.ended_or_moves broker.policy
    · exact absurd finished unfinished
    · exact .inr ⟨_, .move moves⟩

/-! ## The account -/

/-- Whether every subscriber of an envelope is accounted for, and the broker has changed only by the
envelope in its log and the letters that were kept. -/
structure Accounted (broker : Broker ι) (envelope : Envelope) (spread : Spread ι) : Prop where
  served : List.Forall₂ (fun subscriber course =>
    Served broker.policy.most envelope subscriber course.calls course.letters)
    (broker.subscribersOf envelope.eventType) spread.courses
  subscribed : ∀ course ∈ spread.courses, ∀ call ∈ course.calls,
    (envelope.eventType, call.1.subscriber) ∈ broker.subscriptions
  broker_eq : ∃ kept, kept.Perm (spread.courses.flatMap Course.letters) ∧
    spread.broker = { broker with
      published := logged broker.policy.logCapacity broker.published envelope
      deadLetters := broker.deadLetters ++ kept }

theorem mem_subscribersOf {broker : Broker ι} {eventType : String} {subscriber : ι} :
    subscriber ∈ broker.subscribersOf eventType ↔
      (eventType, subscriber) ∈ broker.subscriptions := by
  simp only [subscribersOf, List.mem_map, List.mem_filter, decide_eq_true_eq]
  constructor
  · rintro ⟨⟨_, _⟩, ⟨subscribed, rfl⟩, rfl⟩
    exact subscribed
  · exact fun subscribed => ⟨_, ⟨subscribed, rfl⟩, rfl⟩

/-- What stands at a place of one list is related to what stands there in the other. -/
theorem related_of_getElem? {α β : Type} {related : α → β → Prop} {items : List α}
    {others : List β} (all : List.Forall₂ related items others) {place : Nat} {other : β}
    (found : others[place]? = some other) :
    ∃ item, items[place]? = some item ∧ related item other := by
  induction all generalizing place with
  | nil => cases found
  | cons here _ ih =>
    cases place with
    | zero =>
      obtain rfl := Option.some.inj found
      exact ⟨_, rfl, here⟩
    | succ place => exact ih found

theorem Course.Sound.served {most : Nat} {subscriber : ι} {course : Course ι}
    (sound : course.Sound most envelope subscriber) (finished : course.stage = .ended) :
    Served most envelope subscriber course.calls course.letters := by
  cases sound with
  | ready before few => cases finished
  | handed before few => cases finished
  | dead served => cases finished
  | ended served => exact served

theorem Spread.Sound.accounted {broker : Broker ι}
    (sound : spread.Sound { broker with
      published := logged broker.policy.logCapacity broker.published envelope }
      envelope (broker.subscribersOf envelope.eventType))
    (finished : spread.IsOver) : Accounted broker envelope spread := by
  have served : List.Forall₂ (fun subscriber course =>
      Served broker.policy.most envelope subscriber course.calls course.letters)
      (broker.subscribersOf envelope.eventType) spread.courses := by
    have all := (List.forall₂_and_left _ _).mpr ⟨finished, sound.courses.flip⟩
    exact all.flip.imp fun subscriber course ⟨finished, sound⟩ => sound.served finished
  refine ⟨served, ?_, sound.letters⟩
  intro course member call called
  obtain ⟨place, found⟩ := List.getElem?_of_mem member
  obtain ⟨subscriber, known, served⟩ := related_of_getElem? served found
  have handed := List.mem_map_of_mem (f := Prod.fst) called
  rw [served.numbered] at handed
  obtain ⟨before, -, same⟩ := List.mem_map.mp handed
  rw [← same]
  exact mem_subscribersOf.mp (List.mem_of_getElem? known)

/-- In two runs of the same deliveries, a subscriber that answers alike is served alike, whatever
the others answer. -/
theorem Spread.Sound.course_eq {other : Spread ι}
    (sound : spread.Sound accepted envelope subscribers)
    (soundToo : other.Sound accepted envelope subscribers) (finished : spread.IsOver)
    (finishedToo : other.IsOver) {place : Nat} {course again : Course ι}
    (found : spread.courses[place]? = some course) (foundToo : other.courses[place]? = some again)
    {behaviour : UInt32 → Except String Unit} (follows : Follows behaviour course.calls)
    (followsToo : Follows behaviour again.calls) : course = again := by
  obtain ⟨subscriber, known, here⟩ := related_of_getElem? sound.courses found
  obtain ⟨same, knownToo, hereToo⟩ := related_of_getElem? soundToo.courses foundToo
  obtain rfl : subscriber = same := Option.some.inj (known.symm.trans knownToo)
  have ended := finished course (List.mem_of_getElem? found)
  have endedToo := finishedToo again (List.mem_of_getElem? foundToo)
  obtain ⟨calls, letters⟩ :=
    (here.served ended).eq_of_follows (hereToo.served endedToo) follows followsToo
  exact Course.ext (ended.trans endedToo.symm) calls letters

end Fieldwatch.Broker
