import Fieldwatch.Proofs.Broker.Spreading
import Fieldwatch.Proofs.Task

/-!
# Every subscriber is accounted for

Publishing makes the first attempt for every subscriber and then goes round those that refused,
with a wait before each round. That is one of the ways in which the deliveries may take turns, so
what holds of them all holds of publishing.
-/
namespace Fieldwatch.Broker

variable {ι : Type}

/-! ## Publishing is a run -/

section Publishing

variable {ω σ : Type} [Hosts ω σ] (handle : Handler ι ω)

/-- A handler that takes down what it is handed and what it answers. -/
def noting (handle : Handler ι ω) : Handler ι (ω × List (Call ι)) := fun parcel (shared, notes) =>
  let (result, shared) := handle parcel shared
  (result, shared, notes ++ [(parcel, result)])

/-- The parcel that is to be handed over next on a course. -/
def Course.pending (course : Course ι) : Option (Parcel ι) :=
  match course.stage with
  | .ready parcel => some parcel
  | _ => none

/-- Whether nothing happens on a course but the wait for the next attempt. -/
def Course.IsResting (course : Course ι) : Prop :=
  course.stage = .ended ∨ ∃ parcel, course.stage = .ready parcel

/-- Whether notes hold the calls of some courses, those of each in their order. -/
structure Interleaves (notes : List (Call ι)) (courses : List (Course ι)) : Prop where
  all : notes.Perm (courses.flatMap Course.calls)
  ordered : ∀ course ∈ courses, course.calls.Sublist notes

theorem Interleaves.call {notes : List (Call ι)} {before after : List (Course ι)}
    {course next : Course ι} (notesHold : Interleaves notes (before ++ course :: after))
    {call : Call ι} (calls : next.calls = course.calls ++ [call]) :
    Interleaves (notes ++ [call]) (before ++ next :: after) := by
  obtain ⟨all, ordered⟩ := notesHold
  constructor
  · exact perm_flatMap_append all calls
  · intro other member
    rcases List.mem_append.mp member with earlier | later
    · exact (ordered other (List.mem_append_left _ earlier)).trans (List.sublist_append_left _ _)
    · rcases List.mem_cons.mp later with rfl | later
      · rw [calls]
        exact (ordered course (List.mem_append_right _ List.mem_cons_self)).append_right [call]
      · exact (ordered other (List.mem_append_right _ (List.mem_cons_of_mem _ later))).trans
          (List.sublist_append_left _ _)

/-- What an attempt does beside what the subscriber does: a parcel is given back if it has an
attempt left, letters may be kept, and something may be counted. -/
theorem deliver_cases (parcel : Parcel ι) (broker : Broker ι) (shared : ω) :
    ∃ again letters told,
      deliver handle parcel (broker, shared) =
        (again, { broker with deadLetters := broker.deadLetters ++ letters }, told) ∧
      (∀ next ∈ again, parcel.attempt < broker.policy.maxAttempts ∧
        next.attempt = parcel.attempt + 1) ∧
      (told = (handle parcel shared).2 ∨
        ∃ counter, told = Hosts.count counter 1 (handle parcel shared).2) := by
  rcases answered : handle parcel shared with ⟨result, told⟩
  cases judged : broker.policy.judge parcel result with
  | taken =>
    refine ⟨none, [], told, ?_, by rintro _ ⟨⟩, .inl rfl⟩
    simp only [deliver, answered, judged, List.append_nil]
  | again again =>
    refine ⟨some again, [], Hosts.count .redeliveries 1 told, ?_, ?_, .inr ⟨_, rfl⟩⟩
    · simp only [deliver, answered, judged, List.append_nil]
    · rintro _ ⟨⟩
      exact BrokerPolicy.judge_eq_again judged
  | dead letter =>
    refine ⟨none, [letter], Hosts.count .deadLetters 1 told, ?_, by rintro _ ⟨⟩, .inr ⟨_, rfl⟩⟩
    simp only [deliver, answered, judged]

/-- One attempt for a parcel is a run on its course, which then rests. -/
theorem deliver_steps (broker : Broker ι) (shared : ω) (notes : List (Call ι))
    (parcel : Parcel ι) (calls : List (Call ι)) (letters : List (DeadLetter ι)) :
    ∃ result next left sharedLeft course,
      deliver (noting handle) parcel (broker, shared, notes) =
        (next, left, sharedLeft, notes ++ [(parcel, result)]) ∧
      course.IsResting ∧ course.pending = next ∧ course.calls = calls ++ [(parcel, result)] ∧
      (∀ again ∈ next, parcel.attempt < broker.policy.maxAttempts ∧
        again.attempt = parcel.attempt + 1) ∧
      ∀ before after, SpreadSteps ⟨broker, before ++ ⟨.ready parcel, calls, letters⟩ :: after⟩
        ⟨left, before ++ course :: after⟩ := by
  rcases answered : handle parcel shared with ⟨result, told⟩
  have noted : noting handle parcel (shared, notes) =
      (result, told, notes ++ [(parcel, result)]) := by
    simp only [noting, answered]
  have called (before after : List (Course ι)) :
      SpreadSteps ⟨broker, before ++ ⟨.ready parcel, calls, letters⟩ :: after⟩
        ⟨broker, before ++ ⟨.ofVerdict (broker.policy.judge parcel result),
          calls ++ [(parcel, result)], letters⟩ :: after⟩ :=
    .tail (.single (.of_moves .hand before after)) (.of_moves (.answer result) before after)
  cases judged : broker.policy.judge parcel result with
  | taken =>
    rw [judged] at called
    refine ⟨result, none, broker, told, ⟨.ended, calls ++ [(parcel, result)], letters⟩,
      ?_, .inl rfl, rfl, rfl, by rintro _ ⟨⟩, called⟩
    simp only [deliver, noted, judged]
  | again again =>
    rw [judged] at called
    refine ⟨result, some again, broker, Hosts.count .redeliveries 1 told,
      ⟨.ready again, calls ++ [(parcel, result)], letters⟩, ?_, .inr ⟨again, rfl⟩, rfl, rfl, ?_,
      called⟩
    · simp only [deliver, noted, judged]
      rfl
    · rintro _ ⟨⟩
      exact BrokerPolicy.judge_eq_again judged
  | dead letter =>
    rw [judged] at called
    refine ⟨result, none, { broker with deadLetters := broker.deadLetters ++ [letter] },
      Hosts.count .deadLetters 1 told,
      ⟨.ended, calls ++ [(parcel, result)], letters ++ [letter]⟩,
      ?_, .inl rfl, rfl, rfl, by rintro _ ⟨⟩, fun before after => ?_⟩
    · simp only [deliver, noted, judged]
      rfl
    · exact (called before after).tail (.move .bury)

theorem round_cons (parcel : Parcel ι) (rest : List (Parcel ι)) (state : Broker ι × ω) :
    round handle (parcel :: rest) state =
      ((deliver handle parcel state).1.toList ++
          (round handle rest (deliver handle parcel state).2).1,
        (round handle rest (deliver handle parcel state).2).2) := rfl

/-- What a round does with parcels, it does with the first of them and then with the others. -/
theorem round_append (first second : List (Parcel ι)) (state : Broker ι × ω) :
    round handle (first ++ second) state =
      ((round handle first state).1 ++ (round handle second (round handle first state).2).1,
        (round handle second (round handle first state).2).2) := by
  induction first generalizing state with
  | nil => rfl
  | cons parcel rest ih =>
    rw [List.cons_append, round_cons, round_cons, ih, List.append_assoc]

/-- A round is a run on each course that waits for it, after which the course rests again. -/
theorem turn_steps (course : Course ι) (rests : course.IsResting) (before after : List (Course ι))
    (broker : Broker ι) (shared : ω) {notes : List (Call ι)}
    (notesHold : Interleaves notes (before ++ course :: after)) :
    ∃ left told notesNow next,
      round (noting handle) course.pending.toList (broker, shared, notes) =
        (next.pending.toList, left, told, notesNow) ∧
      next.IsResting ∧ Interleaves notesNow (before ++ next :: after) ∧
      (∀ again ∈ next.pending, ∃ parcel ∈ course.pending,
        parcel.attempt < broker.policy.maxAttempts ∧ again.attempt = parcel.attempt + 1) ∧
      SpreadSteps ⟨broker, before ++ course :: after⟩ ⟨left, before ++ next :: after⟩ := by
  rcases rests with finished | ⟨parcel, ready⟩
  · have idle : course.pending = none := by simp only [Course.pending, finished]
    refine ⟨broker, shared, notes, course, ?_, .inl finished, notesHold, ?_, .refl⟩
    · rw [idle]
      rfl
    · intro again waits
      rw [idle] at waits
      cases waits
  · obtain ⟨stage, calls, letters⟩ := course
    obtain rfl : stage = .ready parcel := ready
    obtain ⟨result, next, left, told, course, delivered, rests, pending, called, attempt, run⟩ :=
      deliver_steps handle broker shared notes parcel calls letters
    refine ⟨left, told, notes ++ [(parcel, result)], course, ?_, rests, notesHold.call called, ?_,
      run before after⟩
    · change round (noting handle) [parcel] (broker, shared, notes) = _
      rw [round_cons, delivered, pending]
      exact congrArg (·, _) (List.append_nil _)
    · intro again waits
      obtain ⟨few, numbered⟩ := attempt again (pending ▸ waits)
      exact ⟨parcel, rfl, few, numbered⟩

omit [Hosts ω σ] in
theorem filterMap_pending_cons (course : Course ι) (rest : List (Course ι)) :
    (course :: rest).filterMap Course.pending =
      course.pending.toList ++ rest.filterMap Course.pending := by
  cases waits : course.pending with
  | none => rw [List.filterMap_cons_none waits, Option.toList_none, List.nil_append]
  | some parcel => rw [List.filterMap_cons_some waits, Option.toList_some, List.singleton_append]

/-- A round is a run on all courses, and what waits after it has had one attempt more. -/
theorem round_steps (courses : List (Course ι)) (resting : ∀ course ∈ courses, course.IsResting)
    (before : List (Course ι)) (broker : Broker ι) (shared : ω) {notes : List (Call ι)}
    (notesHold : Interleaves notes (before ++ courses)) :
    ∃ left told notesNow coursesNow,
      round (noting handle) (courses.filterMap Course.pending) (broker, shared, notes) =
        (coursesNow.filterMap Course.pending, left, told, notesNow) ∧
      (∀ course ∈ coursesNow, course.IsResting) ∧
      Interleaves notesNow (before ++ coursesNow) ∧
      (∀ again ∈ coursesNow.filterMap Course.pending,
        ∃ parcel ∈ courses.filterMap Course.pending,
          parcel.attempt < broker.policy.maxAttempts ∧ again.attempt = parcel.attempt + 1) ∧
      SpreadSteps ⟨broker, before ++ courses⟩ ⟨left, before ++ coursesNow⟩ := by
  -- the courses that had their turn stand before those that wait for it
  induction courses generalizing before broker shared notes with
  | nil => exact ⟨broker, shared, notes, [], rfl, by rintro _ ⟨⟩, notesHold, by rintro _ ⟨⟩, .refl⟩
  | cons course rest ih =>
    obtain ⟨middle, told, notesNow, next, turned, rests, notesNowHold, attempt, turn⟩ :=
      turn_steps handle course (resting course List.mem_cons_self) before rest broker shared
        notesHold
    have regrouped (others : List (Course ι)) :
        before ++ next :: others = (before ++ [next]) ++ others := by simp
    rw [regrouped] at notesNowHold
    obtain ⟨left, toldLast, notesLast, coursesNow, ran, restingNow, notesLastHold, attempts,
      steps⟩ := ih (fun other later => resting other (List.mem_cons_of_mem _ later))
        (before ++ [next]) middle told notesNowHold
    have policy : middle.policy = broker.policy := turn.policy_eq
    rw [← regrouped] at notesLastHold
    rw [← regrouped, ← regrouped] at steps
    refine ⟨left, toldLast, notesLast, next :: coursesNow, ?_, ?_, notesLastHold, ?_,
      turn.trans steps⟩
    · rw [filterMap_pending_cons, filterMap_pending_cons, round_append, turned, ran]
    · intro other member
      rcases List.mem_cons.mp member with rfl | later
      · exact rests
      · exact restingNow other later
    · rw [filterMap_pending_cons, filterMap_pending_cons]
      intro again member
      rcases List.mem_append.mp member with here | later
      · obtain ⟨parcel, waits, counted⟩ := attempt again (Option.mem_toList.mp here)
        exact ⟨parcel, List.mem_append_left _ (Option.mem_toList.mpr waits), counted⟩
      · obtain ⟨parcel, waits, counted⟩ := attempts again later
        rw [policy] at counted
        exact ⟨parcel, List.mem_append_right _ waits, counted⟩

omit [Hosts ω σ] in
theorem isOver_of_pending_eq_nil {broker : Broker ι} {courses : List (Course ι)}
    (resting : ∀ course ∈ courses, course.IsResting)
    (none : courses.filterMap Course.pending = []) : Spread.IsOver ⟨broker, courses⟩ := by
  intro course member
  rcases resting course member with finished | ⟨parcel, ready⟩
  · exact finished
  · have waits : course.pending = some parcel := by simp only [Course.pending, ready]
    have never := List.filterMap_eq_nil_iff.mp none course member
    rw [waits] at never
    cases never

/-- Publishing to a broker that takes the envelope is the first round and then the redeliveries. -/
theorem publish_of_accept {wait : Nat → StateM (Broker ι × ω) Unit} {broker accepted : Broker ι}
    {envelope : Envelope} {shared : ω} {parcels : List (Parcel ι)}
    (taken : broker.accept envelope = .ok (accepted, parcels)) :
    publish handle wait envelope (broker, shared) =
      (.ok (), (redeliver handle wait
        (round handle parcels (accepted, shared)).2.1.policy.maxAttempts.toNat
        (round handle parcels (accepted, shared)).1
        (round handle parcels (accepted, shared)).2).2) := by
  simp only [publish, bind, StateT.bind, Carries.act, send, Carries.carried, taken]
  rfl

variable {wait : Nat → StateM (Broker ι × ω × List (Call ι)) Unit}

omit [Hosts ω σ] in
/-- A parcel that is delivered again has an attempt left, and one round less is enough for it. -/
theorem enough_rounds {policy : BrokerPolicy} {parcel again : Parcel ι} {rounds : Nat}
    (counted : parcel.attempt < policy.maxAttempts ∧ again.attempt = parcel.attempt + 1)
    (enough : policy.maxAttempts.toNat < parcel.attempt.toNat + (rounds + 1)) :
    again.attempt ≤ policy.maxAttempts ∧
      policy.maxAttempts.toNat < again.attempt.toNat + rounds := by
  obtain ⟨few, numbered⟩ := counted
  have next := toNat_add_one_of_lt few
  have below := UInt32.lt_iff_toNat_lt.mp few
  rw [numbered, UInt32.le_iff_toNat_le, next]
  omega

theorem redeliver_cons (rounds : Nat) (parcel : Parcel ι) (rest : List (Parcel ι))
    (state : Broker ι × ω × List (Call ι)) :
    redeliver (noting handle) wait (rounds + 1) (parcel :: rest) state =
      redeliver (noting handle) wait rounds
        (round (noting handle) (parcel :: rest)
          (wait (state.1.policy.pause (parcel :: rest)) state).2).1
        (round (noting handle) (parcel :: rest)
          (wait (state.1.policy.pause (parcel :: rest)) state).2).2 := rfl

variable (quiet : ∀ millis state, (wait millis state).2.1 = state.1 ∧
  (wait millis state).2.2.2 = state.2.2)
include quiet

/-- Rounds and the waits before them are a run to the end, if there are as many as attempts left. -/
theorem redeliver_steps (rounds : Nat) {courses : List (Course ι)} {broker : Broker ι} (shared : ω)
    {notes : List (Call ι)} (resting : ∀ course ∈ courses, course.IsResting)
    (enough : ∀ parcel ∈ courses.filterMap Course.pending,
      parcel.attempt ≤ broker.policy.maxAttempts ∧
        broker.policy.maxAttempts.toNat < parcel.attempt.toNat + rounds)
    (notesHold : Interleaves notes courses) :
    ∃ left sharedLeft notesLeft coursesLeft,
      redeliver (noting handle) wait rounds (courses.filterMap Course.pending)
        (broker, shared, notes) = ((), left, sharedLeft, notesLeft) ∧
      Spread.IsOver ⟨left, coursesLeft⟩ ∧ Interleaves notesLeft coursesLeft ∧
      SpreadSteps ⟨broker, courses⟩ ⟨left, coursesLeft⟩ := by
  induction rounds generalizing courses broker shared notes with
  | zero =>
    have none : courses.filterMap Course.pending = [] := by
      refine List.eq_nil_iff_forall_not_mem.mpr fun parcel member => ?_
      obtain ⟨few, many⟩ := enough parcel member
      have := UInt32.le_iff_toNat_le.mp few
      omega
    exact ⟨broker, shared, notes, courses, rfl, isOver_of_pending_eq_nil resting none, notesHold,
      .refl⟩
  | succ rounds ih =>
    rcases waiting : courses.filterMap Course.pending with _ | ⟨parcel, rest⟩
    · exact ⟨broker, shared, notes, courses, rfl, isOver_of_pending_eq_nil resting waiting,
        notesHold, .refl⟩
    · rcases waited : wait (broker.policy.pause (parcel :: rest)) (broker, shared, notes) with
        ⟨done, same, told, sameNotes⟩
      obtain ⟨untouched, unheard⟩ :=
        quiet (broker.policy.pause (parcel :: rest)) (broker, shared, notes)
      rw [waited] at untouched unheard
      obtain rfl : same = broker := untouched
      obtain rfl : sameNotes = notes := unheard
      obtain ⟨middle, toldNow, notesNow, coursesNow, ran, restingNow, notesNowHold, attempts,
        steps⟩ := round_steps handle courses resting [] same told notesHold
      rw [waiting] at ran
      have policy : middle.policy = same.policy := steps.policy_eq
      have enoughNow : ∀ again ∈ coursesNow.filterMap Course.pending,
          again.attempt ≤ middle.policy.maxAttempts ∧
            middle.policy.maxAttempts.toNat < again.attempt.toNat + rounds := by
        intro again member
        obtain ⟨parcel, earlier, counted⟩ := attempts again member
        rw [policy]
        exact enough_rounds counted (enough parcel earlier).2
      obtain ⟨left, sharedLeft, notesLeft, coursesLeft, ended, finished, notesLeftHold, onward⟩ :=
        ih toldNow restingNow enoughNow notesNowHold
      refine ⟨left, sharedLeft, notesLeft, coursesLeft, ?_, finished, notesLeftHold,
        steps.trans onward⟩
      rw [redeliver_cons, waited, ran]
      exact ended

/-- Publishing to an open broker is a run to the end, and answers. -/
theorem publish_steps {broker accepted : Broker ι} {envelope : Envelope} {shared : ω}
    {parcels : List (Parcel ι)} (taken : broker.accept envelope = .ok (accepted, parcels)) :
    ∃ left sharedLeft notesLeft coursesLeft,
      publish (noting handle) wait envelope (broker, shared, []) =
        (.ok (), left, sharedLeft, notesLeft) ∧
      Spread.IsOver ⟨left, coursesLeft⟩ ∧ Interleaves notesLeft coursesLeft ∧
      SpreadSteps (.start accepted parcels) ⟨left, coursesLeft⟩ := by
  have waiting : (Spread.start accepted parcels).courses.filterMap Course.pending = parcels := by
    rw [Spread.start, List.filterMap_map]
    exact List.filterMap_some
  have resting : ∀ course ∈ (Spread.start accepted parcels).courses, course.IsResting := by
    intro course member
    obtain ⟨parcel, -, rfl⟩ := List.mem_map.mp member
    exact .inr ⟨parcel, rfl⟩
  have nothing : Interleaves [] ([] ++ (Spread.start accepted parcels).courses) := by
    constructor
    · simp [Spread.start, List.flatMap_map]
    · intro course member
      obtain ⟨parcel, -, rfl⟩ := List.mem_map.mp member
      exact .refl _
  obtain ⟨middle, told, notes, courses, ran, restingNow, notesHold, attempts, steps⟩ :=
    round_steps handle _ resting [] accepted shared nothing
  rw [waiting] at ran attempts
  have policy : middle.policy = accepted.policy := steps.policy_eq
  -- after the first attempts, as many rounds as there are attempts are more than enough
  have enough : ∀ again ∈ courses.filterMap Course.pending,
      again.attempt ≤ middle.policy.maxAttempts ∧
        middle.policy.maxAttempts.toNat <
          again.attempt.toNat + middle.policy.maxAttempts.toNat := by
    intro again member
    obtain ⟨parcel, earlier, counted⟩ := attempts again member
    rw [policy]
    exact enough_rounds counted (by omega)
  obtain ⟨left, sharedLeft, notesLeft, coursesLeft, ended, finished, notesLeftHold, onward⟩ :=
    redeliver_steps handle quiet middle.policy.maxAttempts.toNat told restingNow enough notesHold
  refine ⟨left, sharedLeft, notesLeft, coursesLeft, ?_, finished, notesLeftHold,
    steps.trans onward⟩
  rw [publish_of_accept (noting handle) taken, ran, ended]

end Publishing

theorem publish_closed {ω σ : Type} [Hosts ω σ] {broker : Broker ι}
    (closed : broker.isClosed = true) (handle : Handler ι ω)
    (wait : Nat → StateM (Broker ι × ω) Unit) (envelope : Envelope) (shared : ω) :
    publish handle wait envelope (broker, shared) = (.error .closed, broker, shared) := by
  simp only [publish, bind, StateT.bind, Carries.act, send, Carries.carried,
    accept_of_closed closed]
  rfl

/-! ## The account of a publication -/

/-- A closed broker takes nothing. From an open one every subscriber of the type, and no one else,
receives the envelope until it takes it or is out of attempts, and a dead letter is kept of it
exactly in the second case, however the deliveries take turns and whatever the subscribers answer.
No run of deliveries goes on for ever, publishing is one of them, and what a subscriber receives
depends on its own answers alone. -/
theorem every_subscriber_accounted {ω σ : Type} [Hosts ω σ] (handle : Handler ι ω)
    (broker : Broker ι) (envelope : Envelope) (shared : ω) :
    (broker.isClosed = true → broker.accept envelope = .error .closed ∧
      ∀ wait, publish handle wait envelope (broker, shared) = (.error .closed, broker, shared)) ∧
    (broker.isClosed = false → ∃ accepted parcels,
      broker.accept envelope = .ok (accepted, parcels) ∧
      (∀ spread, SpreadSteps (.start accepted parcels) spread →
        (spread.IsOver ∨ ∃ next, SpreadStep spread next) ∧
        (spread.IsOver → Accounted broker envelope spread)) ∧
      (∀ spread other, SpreadSteps (.start accepted parcels) spread →
        SpreadSteps (.start accepted parcels) other → spread.IsOver → other.IsOver →
        ∀ (place : Nat) course again behaviour, spread.courses[place]? = some course →
          other.courses[place]? = some again → Follows behaviour course.calls →
          Follows behaviour again.calls → course = again) ∧
      ∀ wait : Nat → StateM (Broker ι × ω × List (Call ι)) Unit,
        (∀ millis state, (wait millis state).2.1 = state.1 ∧
          (wait millis state).2.2.2 = state.2.2) →
        ∃ spread left notes, publish (noting handle) wait envelope (broker, shared, []) =
            (.ok (), spread.broker, left, notes) ∧
          SpreadSteps (.start accepted parcels) spread ∧ spread.IsOver ∧
          Interleaves notes spread.courses) ∧
    ∀ run : Nat → Spread ι, ¬ ∀ count, SpreadStep (run count) (run (count + 1)) := by
  refine ⟨fun closed => ⟨?_, fun wait => publish_closed closed handle wait envelope shared⟩,
    fun isOpen => ?_, no_endless_run⟩
  · rw [accept, closed]
    rfl
  · have taken := accept_of_open isOpen envelope
    have sound {spread : Spread ι} (steps : SpreadSteps (.start _ _) spread) :=
      (Spread.Sound.start { broker with
        published := logged broker.policy.logCapacity broker.published envelope }
        envelope (broker.subscribersOf envelope.eventType)).steps steps
    refine ⟨_, _, taken, ?_, ?_, ?_⟩
    · exact fun spread steps => ⟨spread.isOver_or_step, (sound steps).accounted⟩
    · intro spread other steps stepsToo finished finishedToo place course again behaviour
        found foundToo
      exact (sound steps).course_eq (sound stepsToo) finished finishedToo found foundToo
    · intro wait quiet
      obtain ⟨left, sharedLeft, notes, courses, ran, finished, notesHold, steps⟩ :=
        publish_steps handle quiet taken
      exact ⟨⟨left, courses⟩, sharedLeft, notes, ran, steps, finished, notesHold⟩

/-- Of two attempts the first subscriber refuses both, and the second takes the last. -/
def unevenAudience : Handler Bool (World Unit) := fun parcel world =>
  (if parcel.subscriber && parcel.attempt = 2 then .ok () else .error "busy", world)

def smallBroker : Broker Bool where
  policy := ⟨2, 0, 0⟩
  subscriptions := [("AlertRaised", false), ("AlertRaised", true), ("UserCreated", true)]

def alarm : Envelope := ⟨⟨5⟩, "AlertRaised", 1, ⟨6⟩, ⟨9⟩, "EvaluateAlerts", .epoch, .null⟩

/-- The first has a dead letter in the end, and both are accounted for. -/
theorem unevenAudience_accounted : ∃ spread left notes,
    publish (noting unevenAudience) (fun _ => pure ()) alarm
      (smallBroker, .atRest (), []) = (.ok (), spread.broker, left, notes) ∧
    Accounted smallBroker alarm spread ∧
    spread.broker.deadLetters = [⟨alarm, false, 2, "busy"⟩] := by
  obtain ⟨-, accounted, -⟩ := every_subscriber_accounted unevenAudience smallBroker alarm
    (.atRest ())
  obtain ⟨accepted, parcels, -, accounts, -, publishes⟩ := accounted rfl
  obtain ⟨spread, left, notes, ran, steps, finished, -⟩ :=
    publishes (fun _ => pure ()) fun _ _ => ⟨rfl, rfl⟩
  exact ⟨spread, left, notes, ran, (accounts spread steps).2 finished,
    (congrArg (fun answer => answer.2.1.deadLetters) ran).symm⟩

end Fieldwatch.Broker
