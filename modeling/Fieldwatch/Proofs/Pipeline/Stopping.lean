import Fieldwatch.Proofs.Delivery.AtLeastOnce
import Fieldwatch.Proofs.Event.Envelope
import Fieldwatch.Proofs.Pipeline.Rounds
import Fieldwatch.Proofs.Pipeline.Sparing

/-!
# Stopping a pipeline

A pipeline is stopped between two passes: the steps that it is given before it stops are enough to
end the pass that it is within. So what holds of every course of a loop holds of every pipeline, and
the broker is closed when there is nothing of a pass left that it could refuse.
-/
namespace Fieldwatch.Stopping

variable {ι ω : Type} [Hosts ω Tables] {handle : Broker.Handler ι ω} {plan : LoopPlan}

/-! ## Pipelines -/

/-- What a loop was told so far. -/
def Signal.ofLoop : RelayLoop ι → Signal
  | .stopped => ⟨true, false, false⟩
  | _ => {}

/-- How far a pipeline with a loop has come in its shutdown. -/
def Closing.ofLoop : RelayLoop ι → Closing
  | .stopped => .closed
  | _ => .running

/-- The situation of a pipeline between two of its steps. -/
def Situation.ofPipeline (pipeline : Pipeline ι ω) (notes : List Note) : Situation ι ω :=
  ⟨(pipeline.broker, pipeline.shared), .ofLoop pipeline.loop, .ofLoop pipeline.loop,
    .ofLoop pipeline.loop, notes⟩

theorem Situation.ofPipeline_of_running {pipeline : Pipeline ι ω}
    (running : Running (pipeline.broker, pipeline.shared) pipeline.loop) (notes : List Note) :
    ofPipeline pipeline notes =
      ⟨(pipeline.broker, pipeline.shared), .ofLoop pipeline.loop, {}, .running, notes⟩ := by
  unfold ofPipeline
  generalize pipeline.loop = loop at running
  cases loop with
  | starting | idle | delivering => rfl
  | stopped | broken => exact running.elim

theorem Running.kept {state after : Broker ι × ω} {loop : RelayLoop ι}
    (running : Running state loop) (kept : Kept state after) : Running after loop := by
  cases loop with
  | starting | idle => exact kept.isClosed_eq.trans running
  | delivering pass ticks =>
    obtain ⟨isOpen, inHand⟩ := running
    exact ⟨kept.isClosed_eq.trans isOpen, (inHand.kept kept).roundsLeft⟩
  | stopped | broken => exact running.elim

/-- Whether a pipeline runs or has been stopped. -/
def IsWhole (pipeline : Pipeline ι ω) : Prop :=
  Running (pipeline.broker, pipeline.shared) pipeline.loop ∨
    pipeline.loop = .stopped ∧ pipeline.broker.isClosed = true

/-- What a caller does who publishes: an envelope is handed over, and what was refused is delivered
again. -/
inductive Publishes (handle : Broker.Handler ι ω) : Broker ι × ω → Broker ι × ω → Prop
  | send (envelope : Envelope) (state : Broker ι × ω) :
    Publishes handle state (Broker.send handle envelope state).2
  | again (parcels : List (Parcel ι)) (state : Broker ι × ω) :
    Publishes handle state (Broker.round handle parcels state).2

/-- Whether a pipeline comes from another by what its loop may do beside others, with every answer
written down. -/
structure Continues (handle : Broker.Handler ι ω) (others : Broker ι × ω → Broker ι × ω → Prop)
    (before after : Pipeline ι ω) : Prop where
  plan_eq : after.plan = before.plan
  whole : IsWhole after
  steps : ∀ notes, ∃ more, AllMarked more ∧ LoopSteps handle before.plan others
    (.ofPipeline before notes) (.ofPipeline after (notes ++ more))

namespace Continues

variable {others : Broker ι × ω → Broker ι × ω → Prop} {before middle after pipeline : Pipeline ι ω}

theorem refl (whole : IsWhole pipeline) : Continues handle others pipeline pipeline :=
  ⟨rfl, whole, fun notes => ⟨[], .nil, by rw [List.append_nil]⟩⟩

theorem trans (first : Continues handle others before middle)
    (second : Continues handle others middle after) : Continues handle others before after := by
  refine ⟨second.plan_eq.trans first.plan_eq, second.whole, fun notes => ?_⟩
  obtain ⟨more, marked, steps⟩ := first.steps notes
  obtain ⟨rest, markedToo, onward⟩ := second.steps (notes ++ more)
  rw [first.plan_eq, List.append_assoc] at onward
  exact ⟨more ++ rest, marked.append markedToo, steps.trans onward⟩

theorem mono {more : Broker ι × ω → Broker ι × ω → Prop}
    (among : ∀ state after, others state after → more state after)
    (continues : Continues handle others before after) : Continues handle more before after := by
  refine ⟨continues.plan_eq, continues.whole, fun notes => ?_⟩
  obtain ⟨rest, marked, steps⟩ := continues.steps notes
  exact ⟨rest, marked, steps.mono among⟩

theorem of_nobody (continues : Continues handle Nobody before after) :
    Continues handle others before after :=
  continues.mono fun _ _ => False.elim

/-- Others may work with the broker and the store. -/
theorem work {broker : Broker ι} {shared : ω} (whole : IsWhole pipeline)
    (works : others (pipeline.broker, pipeline.shared) (broker, shared))
    (kept : Kept (pipeline.broker, pipeline.shared) (broker, shared)) :
    Continues handle others pipeline { pipeline with broker, shared } := by
  refine ⟨rfl, ?_, fun notes => ⟨[], .nil, ?_⟩⟩
  · exact whole.imp (·.kept kept) fun ⟨stopped, closed⟩ =>
      ⟨stopped, kept.isClosed_eq.trans closed⟩
  · rw [List.append_nil]
    exact .single (.work works kept.policy_eq kept.isClosed_eq)

section Loop

variable (keeps : ∀ parcel shared, KeepsRows shared (handle parcel shared).2)
include keeps

/-- What the loop does when its time has come it does alone. -/
theorem stepAt (whole : IsWhole pipeline) (timed : pipeline.plan.period ≠ 0) (time : Nat) :
    Continues handle Nobody pipeline (pipeline.stepAt handle time) := by
  rcases whole with running | ⟨stopped, closed⟩
  · obtain ⟨⟨more, marked, steps⟩, onward⟩ := step_alone keeps timed time running
    have runningToo : Running ((pipeline.stepAt handle time).broker,
      (pipeline.stepAt handle time).shared) (pipeline.stepAt handle time).loop := onward
    refine ⟨rfl, .inl runningToo, fun notes => ⟨more, marked, ?_⟩⟩
    rw [Situation.ofPipeline_of_running running, Situation.ofPipeline_of_running runningToo]
    exact steps {} .running notes
  · obtain ⟨broker, shared, plan, loop, clock⟩ := pipeline
    obtain rfl : loop = .stopped := stopped
    exact ⟨rfl, .inr ⟨rfl, closed⟩, fun notes => ⟨[], .nil, by rw [List.append_nil]; exact .refl⟩⟩

theorem keptByLoop (timed : before.plan.period ≠ 0) :
    Pipeline.KeptByLoop handle (Continues handle others before) where
  stepAt time earlier :=
    earlier.trans (stepAt keeps earlier.whole (earlier.plan_eq ▸ timed) time).of_nobody
  tick _ earlier := ⟨earlier.plan_eq, earlier.whole, earlier.steps⟩

theorem keptByCalls (timed : before.plan.period ≠ 0) :
    Pipeline.KeptByCalls handle (Continues handle (Publishes handle) before) where
  toKeptByLoop := keptByLoop keeps timed
  send envelope earlier := earlier.trans
    (work earlier.whole (.send envelope _) (Broker.send_kept keeps envelope _))
  round parcels earlier := earlier.trans
    (work earlier.whole (.again parcels _) (Broker.round_kept keeps parcels _))

theorem wait (whole : IsWhole pipeline) (timed : pipeline.plan.period ≠ 0) (millis : Nat) :
    Continues handle Nobody pipeline (Pipeline.wait handle millis pipeline).2 :=
  (keptByLoop keeps timed).wait millis (.refl whole)

theorem publish (whole : IsWhole pipeline) (timed : pipeline.plan.period ≠ 0)
    (envelope : Envelope) :
    Continues handle (Publishes handle) pipeline (Pipeline.publish handle envelope pipeline).2 :=
  (keptByCalls keeps timed).publish envelope (.refl whole)

/-- A caller who publishes keeps the rows, as the subscribers do. -/
theorem kept_of_publishes {state after : Broker ι × ω} (publishes : Publishes handle state after) :
    Kept state after := by
  cases publishes with
  | send envelope => exact Broker.send_kept keeps envelope state
  | again parcels => exact Broker.round_kept keeps parcels state

end Loop
end Continues

/-! ## The end of a pipeline -/

theorem toCome_delivering (pass : Pass ι) (ticks : Ticks) :
    (Place.ofLoop (.delivering pass ticks)).toCome =
      (pass.entry :: pass.rest).flatMap notesOf ++ [.ended] := by
  rw [List.flatMap_cons, List.append_assoc]
  rfl

theorem isQuiet_toCome {loop : RelayLoop ι} {note : Note}
    (member : note ∈ (Place.ofLoop loop).toCome) : note.IsQuiet := by
  cases loop with
  | delivering pass ticks =>
    rw [toCome_delivering] at member
    rcases List.mem_append.mp member with worked | last
    · exact isQuiet_notesOf worked
    · obtain rfl := List.mem_singleton.mp last
      trivial
  | starting | idle | stopped | broken => cases member

section Ending

variable (keeps : ∀ parcel shared, KeepsRows shared (handle parcel shared).2)
include keeps

omit keeps in
theorem endPass_of_idle (steps : Nat) {pipeline : Pipeline ι ω} {ticks : Ticks}
    (idle : pipeline.loop = .idle ticks) : Pipeline.endPass handle steps pipeline = pipeline := by
  cases steps with
  | zero => rfl
  | succ steps => rw [Pipeline.endPass, idle]

/-- As many steps as there are rounds left end a pass. -/
theorem endPass_leads (plan : LoopPlan) (steps : Nat) {state : Broker ι × ω} {pass : Pass ι}
    (ticks : Ticks) (clock : Nat) (isOpen : state.1.isClosed = false)
    (inHand : InHand steps state pass) :
    ∃ after clockAfter,
      Pipeline.endPass handle steps ⟨state.1, state.2, plan, .delivering pass ticks, clock⟩ =
        ⟨after.1, after.2, plan, .idle ticks, clockAfter⟩ ∧
      Leads handle plan state (.within (some pass)) after .listening := by
  induction steps generalizing state pass clock with
  | zero =>
    obtain ⟨some, ⟨left, -, few, none⟩, -⟩ := inHand
    have := few.pos some
    omega
  | succ steps ih =>
    have goes : Goes handle plan steps state _ _ :=
      resume_goes keeps (max clock pass.wake) isOpen inHand
    rcases resumed : RelayLoop.resume handle (max clock pass.wake) pass state with ⟨out, middle⟩
    rw [resumed] at goes
    obtain ⟨leads, kept, inHandNow⟩ := goes
    have stepped : Pipeline.endPass handle (steps + 1)
        ⟨state.1, state.2, plan, .delivering pass ticks, clock⟩ =
          Pipeline.endPass handle steps ⟨middle.1, middle.2, plan, .within ticks out,
            max clock pass.wake⟩ := by
      simp only [Pipeline.endPass, Pipeline.stepAt, RelayLoop.step, bind, StateT.bind, resumed]
      rfl
    rw [stepped]
    cases out with
    | none => exact ⟨middle, _, endPass_of_idle steps rfl, leads⟩
    | some next =>
      obtain ⟨after, clockAfter, ended, onward⟩ :=
        ih _ (kept.isClosed_eq.trans isOpen) (inHandNow next rfl)
      exact ⟨after, clockAfter, ended, leads.trans onward⟩

omit keeps in
theorem shutdown_of_endPass {pipeline ended : Pipeline ι ω} {ticks : Ticks}
    (ends : Pipeline.endPass handle pipeline.stepsLeft pipeline = ended)
    (idle : ended.loop = .idle ticks) :
    pipeline.shutdown handle =
      { ended with loop := .stopped, broker := ended.broker.close } := by
  simp only [Pipeline.shutdown, ends, idle]

/-- A pipeline is stopped where its loop listens again, after the rest of the pass that it is
within. -/
theorem shutdown_of_running (timed : plan.period ≠ 0) {pipeline : Pipeline ι ω}
    (plan_eq : pipeline.plan = plan)
    (running : Running (pipeline.broker, pipeline.shared) pipeline.loop) :
    ∃ after clock, pipeline.shutdown handle = ⟨after.1.close, after.2, plan, .stopped, clock⟩ ∧
      (∀ signal closing notes, LoopSteps handle plan Nobody
        ⟨(pipeline.broker, pipeline.shared), .ofLoop pipeline.loop, signal, closing, notes⟩
        ⟨after, .listening, signal, closing, notes ++ (Place.ofLoop pipeline.loop).toCome⟩) ∧
      ∀ pass ticks, pipeline.loop = .delivering pass ticks → Busy handle plan
        (pipeline.broker, pipeline.shared) (.ofLoop pipeline.loop)
        (Place.ofLoop pipeline.loop).toCome after .listening := by
  obtain ⟨broker, shared, own, loop, clock⟩ := pipeline
  obtain rfl : plan = own := plan_eq.symm
  cases loop with
  | starting =>
    refine ⟨(broker, shared), clock, ?_, fun signal closing notes => ?_, by rintro _ _ ⟨⟩⟩
    · simp only [Pipeline.shutdown, Pipeline.stepsLeft, Pipeline.endPass]
      rw [if_neg timed]
    · exact .single (.advance (.begin timed))
  | idle ticks =>
    refine ⟨(broker, shared), clock, rfl, fun signal closing notes => ?_, by rintro _ _ ⟨⟩⟩
    rw [show (Place.ofLoop (.idle ticks : RelayLoop ι)).toCome = [] from rfl, List.append_nil]
    exact .refl
  | delivering pass ticks =>
    obtain ⟨isOpen, inHand⟩ := running
    obtain ⟨after, clockAfter, ended, more, marked, busy⟩ :=
      endPass_leads keeps _ _ ticks clock isOpen inHand
    have ends : Pipeline.endPass handle
        (Pipeline.stepsLeft ⟨broker, shared, plan, .delivering pass ticks, clock⟩)
        ⟨broker, shared, plan, .delivering pass ticks, clock⟩ = _ := ended
    obtain rfl : (Place.within (some pass)).toCome = more :=
      (busy.toCome_eq isOpen marked).trans (List.append_nil more)
    refine ⟨after, clockAfter, shutdown_of_endPass ends rfl, busy.steps, ?_⟩
    rintro _ _ ⟨⟩
    exact busy
  | stopped | broken => exact running.elim

end Ending

/-- What a shutdown makes of a pipeline: while nobody works beside it the loop goes through the rest
of the pass that it is within, if any, and leaves, and the broker is closed after that. Stopping it
again changes nothing. -/
structure Ends (handle : Broker.Handler ι ω) (pipeline after : Pipeline ι ω) : Prop where
  stopped : after.loop = .stopped
  closed : after.broker.isClosed = true
  plan_eq : after.plan = pipeline.plan
  steps : pipeline.loop ≠ .stopped → ∀ notes, LoopSteps handle pipeline.plan Nobody
    (.ofPipeline pipeline notes)
    (.ofPipeline after (notes ++ (Place.ofLoop pipeline.loop).toCome ++ [.left, .closed]))
  again : pipeline.loop = .stopped → after = pipeline

theorem shutdown_of_stopped {pipeline : Pipeline ι ω} (stopped : pipeline.loop = .stopped)
    (closed : pipeline.broker.isClosed = true) : pipeline.shutdown handle = pipeline := by
  obtain ⟨⟨policy, subscriptions, published, letters, isClosed⟩, shared, plan, loop, clock⟩ :=
    pipeline
  obtain rfl : loop = .stopped := stopped
  obtain rfl : isClosed = true := closed
  rfl

section Ending

variable (keeps : ∀ parcel shared, KeepsRows shared (handle parcel shared).2)
include keeps

theorem ends_shutdown {pipeline : Pipeline ι ω} (whole : IsWhole pipeline)
    (timed : pipeline.plan.period ≠ 0) : Ends handle pipeline (pipeline.shutdown handle) := by
  rcases whole with running | ⟨stopped, closed⟩
  · obtain ⟨after, clock, stops, rest, -⟩ := shutdown_of_running keeps timed rfl running
    rw [stops]
    refine ⟨rfl, rfl, rfl, fun _ notes => ?_, fun stopped => ?_⟩
    · rw [Situation.ofPipeline_of_running running, List.append_cons]
      -- the signal waits until the pass is over
      have told : LoopSteps handle pipeline.plan Nobody
          ⟨(pipeline.broker, pipeline.shared), .ofLoop pipeline.loop, {}, .running, notes⟩ _ :=
        .single .shutDown
      have listening := told.trans (rest ⟨true, true, false⟩ .joining notes)
      exact ((listening.tail .look).tail .leave).tail (.close (.inl rfl))
    · rw [stopped] at running
      exact running.elim
  · rw [shutdown_of_stopped stopped closed]
    exact ⟨stopped, closed, rfl, fun runs => absurd stopped runs, fun _ => rfl⟩

/-- With subscribers that spare the outbox, the entries of the pass in hand are all published. -/
theorem shutdown_publishes (sparing : ∀ parcel shared, Spares shared (handle parcel shared).2)
    {pipeline : Pipeline ι ω} (whole : IsWhole pipeline) (timed : pipeline.plan.period ≠ 0)
    {pass : Pass ι} {ticks : Ticks} (within : pipeline.loop = .delivering pass ticks) :
    ∀ entry ∈ pass.entry :: pass.rest,
      IsPublished entry.id (pipeline.shutdown handle).shared := by
  have running := whole.resolve_right fun ⟨stopped, _⟩ => by rw [stopped] at within; cases within
  obtain ⟨after, clock, stops, -, rest⟩ := shutdown_of_running keeps timed rfl running
  have busy := rest pass ticks within
  rw [stops]
  intro entry among
  refine (busy.spares sparing (fun _ _ => isQuiet_toCome) fun _ _ => isQuiet_toCome).2 entry ?_
  rw [within, toCome_delivering]
  exact List.mem_append_left _ (List.mem_flatMap.mpr ⟨entry, among, .tail _ (.head _)⟩)

theorem Continues.shutdown {pipeline : Pipeline ι ω} (whole : IsWhole pipeline)
    (timed : pipeline.plan.period ≠ 0) :
    Continues handle Nobody pipeline (pipeline.shutdown handle) := by
  have ends := ends_shutdown keeps whole timed
  rcases whole with running | ⟨stopped, closed⟩
  · have runs : pipeline.loop ≠ .stopped := fun stopped => by rw [stopped] at running; exact running
    refine ⟨ends.plan_eq, .inr ⟨ends.stopped, ends.closed⟩, fun notes =>
      ⟨(Place.ofLoop pipeline.loop).toCome ++ [.left, .closed], ?_, ?_⟩⟩
    · have quiet : AllMarked (Place.ofLoop pipeline.loop).toCome := fun _ _ => isQuiet_toCome
      exact quiet.append (by rintro _ _ (_ | ⟨_, _ | ⟨_, ⟨⟩⟩⟩))
    · rw [← List.append_assoc]
      exact ends.steps runs notes
  · rw [shutdown_of_stopped stopped closed]
    exact .refl (.inr ⟨stopped, closed⟩)

end Ending

/-! ## No attempt is lost -/

/-- What becomes of a pipeline: time passes, envelopes are published to it, others work with its
broker and on what its subscribers share but keep the rows of the outbox, and it is stopped. -/
inductive Used (handle : Broker.Handler ι ω) (first : Pipeline ι ω) : Pipeline ι ω → Prop
  | first : Used handle first first
  | wait {pipeline} (millis : Nat) (earlier : Used handle first pipeline) :
    Used handle first (Pipeline.wait handle millis pipeline).2
  | publish {pipeline} (envelope : Envelope) (earlier : Used handle first pipeline) :
    Used handle first (Pipeline.publish handle envelope pipeline).2
  | work {pipeline} {broker : Broker ι} {shared : ω}
    (kept : Kept (pipeline.broker, pipeline.shared) (broker, shared))
    (earlier : Used handle first pipeline) :
    Used handle first { pipeline with broker, shared }
  | shutdown {pipeline} (earlier : Used handle first pipeline) :
    Used handle first (pipeline.shutdown handle)

section Using

variable (keeps : ∀ parcel shared, KeepsRows shared (handle parcel shared).2)
include keeps

/-- A pipeline that is used goes on beside others who keep the rows. -/
theorem Used.continues {first pipeline : Pipeline ι ω} (used : Used handle first pipeline)
    (whole : IsWhole first) (timed : first.plan.period ≠ 0) :
    Continues handle Kept first pipeline := by
  induction used with
  | first => exact .refl whole
  | wait millis _ ih =>
    exact ih.trans (.of_nobody (.wait keeps ih.whole (ih.plan_eq ▸ timed) millis))
  | publish envelope _ ih =>
    have published := Continues.publish keeps ih.whole (ih.plan_eq ▸ timed) envelope
    exact ih.trans (published.mono fun _ _ => Continues.kept_of_publishes keeps)
  | work kept _ ih => exact ih.trans (.work ih.whole kept kept)
  | shutdown _ ih =>
    exact ih.trans (.of_nobody (.shutdown keeps ih.whole (ih.plan_eq ▸ timed)))

end Using

/-- A pipeline that goes on in order marks no row as failed. -/
theorem Continues.failsNone {others : Broker ι × ω → Broker ι × ω → Prop}
    {before after : Pipeline ι ω} {notes : List Note}
    (continues : Continues handle others before after)
    (sparing : ∀ parcel shared, Spares shared (handle parcel shared).2)
    (among : ∀ state after, others state after → FailsNone state.2 after.2)
    (timed : before.plan.period ≠ 0) (marked : AllMarked notes)
    (through : GoneThrough (.ofPipeline before notes)) : FailsNone before.shared after.shared := by
  obtain ⟨more, markedToo, steps⟩ := continues.steps notes
  have throughNow := through.steps timed steps (marked.append markedToo)
  exact failsNone_of_steps sparing among steps (marked.append markedToo) fun entry error =>
    (throughNow.not_refused entry error).2

/-- Whatever comes when, a shutdown costs no entry an attempt: as long as the store writes the
answers down, every pass is gone through to its end, all its entries are published and marked, the
loop leaves between two passes and begins none after that, and the broker is closed last, so that it
refuses the loop nothing. Within a pass the loop can always go on, and if it does the pass ends.

A pipeline whose subscribers keep the rows of the outbox, and whose loop is not without time between
its polls, is such a loop: while it waits only the loop works, while it publishes only the loop and
the caller, and when it is stopped the loop goes through the rest of its pass before it leaves and
the broker is closed. If the subscribers spare the rows as well, none of this marks a row as failed,
and the entries of the pass that a shutdown finds have rows that are published after it. -/
theorem shutdown_costs_no_attempt (plan : LoopPlan) (timed : plan.period ≠ 0) :
    (∀ {ι ω σ : Type} [Backend σ] [Hosts ω σ] (handle : Broker.Handler ι ω)
      (others : Broker ι × ω → Broker ι × ω → Prop),
      (∀ (state : Broker ι × ω) (situation : Situation ι ω), state.1.isClosed = false →
        LoopSteps handle plan others (.first state) situation → AllMarked situation.notes →
        GoneThrough situation ∧
        (∀ entry error, .answered entry (.error error) ∉ situation.notes ∧
          .marked entry (.error error) ∉ situation.notes) ∧
        ((∀ entry result rest, situation.place ≠ .settling entry result rest) →
          situation.notes.filterMap Note.answer? = situation.notes.filterMap Note.mark?) ∧
        (∀ before later, situation.notes = before ++ .left :: later →
          (∃ passes : List (List OutboxEntry), before = passes.flatMap notesThrough) ∧
            (later = [] ∨ later = [.closed])) ∧
        ∀ before later, situation.notes = before ++ .closed :: later →
          (∃ passes : List (List OutboxEntry),
            before = passes.flatMap notesThrough ++ [.left]) ∧ later = []) ∧
      (∀ (state : Broker ι × ω) (place : Place ι), place.IsWithin →
        ∃ more after next, Advance handle plan state place more after next) ∧
      ∀ run : Nat → Situation ι ω,
        (∀ count, LoopStep handle plan others (run count) (run (count + 1))) →
        (∀ count, (run count).place.IsWithin →
          ∃ later, count ≤ later ∧ AdvancesAt handle plan run later) →
        ∀ count, (run count).place.IsWithin →
          ∃ later, count ≤ later ∧ (run later).place = .listening) ∧
    ∀ {ι ω : Type} [Hosts ω Tables] (handle : Broker.Handler ι ω) (first pipeline : Pipeline ι ω),
      (∀ parcel shared, KeepsRows shared (handle parcel shared).2) → first.plan = plan →
      first.loop = .starting → first.broker.isClosed = false → Used handle first pipeline →
      (∃ notes, AllMarked notes ∧ LoopSteps handle plan Kept (.first (first.broker, first.shared))
        (.ofPipeline pipeline notes)) ∧
      (∀ millis, Continues handle Nobody pipeline (Pipeline.wait handle millis pipeline).2) ∧
      (∀ envelope, Continues handle (Publishes handle) pipeline
        (Pipeline.publish handle envelope pipeline).2) ∧
      Ends handle pipeline (pipeline.shutdown handle) ∧
      ((∀ parcel shared, Spares shared (handle parcel shared).2) →
        (∀ millis, FailsNone pipeline.shared (Pipeline.wait handle millis pipeline).2.shared) ∧
        (∀ envelope,
          FailsNone pipeline.shared (Pipeline.publish handle envelope pipeline).2.shared) ∧
        FailsNone pipeline.shared (pipeline.shutdown handle).shared ∧
        ∀ pass ticks, pipeline.loop = .delivering pass ticks →
          ∀ entry ∈ pass.entry :: pass.rest,
            IsPublished entry.id (pipeline.shutdown handle).shared) := by
  refine ⟨fun handle others =>
    ⟨?_, fun state place => exists_advance handle plan state, ?_⟩, ?_⟩
  · intro state situation isOpen steps marked
    have through := (GoneThrough.first isOpen).steps timed steps marked
    exact ⟨through, through.not_refused, through.answers_marked, fun _ _ => through.of_left,
      fun _ _ => through.of_closed⟩
  · exact fun run steps goesOn count => pass_ends steps goesOn count
  · intro ι ω _ handle first pipeline keeps plan_eq starting isOpen used
    obtain ⟨broker, shared, own, loop, clock⟩ := first
    obtain rfl : own = plan := plan_eq
    obtain rfl : loop = .starting := starting
    have continues := used.continues keeps (.inl isOpen) timed
    obtain ⟨notes, marked, steps⟩ := continues.steps []
    have whole := continues.whole
    have timedToo : pipeline.plan.period ≠ 0 := continues.plan_eq ▸ timed
    have begun : GoneThrough (.first (broker, shared)) := .first isOpen
    have through : GoneThrough (.ofPipeline pipeline notes) := begun.steps timed steps marked
    have waits := Continues.wait keeps whole timedToo
    have publishes := Continues.publish keeps whole timedToo
    refine ⟨⟨notes, marked, steps⟩, waits, publishes, ends_shutdown keeps whole timedToo,
      fun sparing => ⟨fun millis => ?_, fun envelope => ?_, ?_, ?_⟩⟩
    · exact (waits millis).failsNone sparing (fun _ _ => False.elim) timedToo marked through
    · refine (publishes envelope).failsNone sparing (fun state after publishes => ?_) timedToo
        marked through
      cases publishes with
      | send envelope => exact send_failsNone sparing envelope state
      | again parcels => exact round_failsNone sparing parcels state
    · exact (Continues.shutdown keeps whole timedToo).failsNone sparing (fun _ _ => False.elim)
        timedToo marked through
    · exact fun pass ticks within => shutdown_publishes keeps sparing whole timedToo within

/-! ## A pass in hand -/

open Delivery (newsEntry)

/-- The news of a new user. -/
def hired : Message :=
  .userCreated ⟨⟨21⟩, .epoch, ⟨1⟩, "Joana", "joana@example.com", none⟩

def hiredEntry : OutboxEntry := .new ⟨3⟩ (hired.envelope ⟨9⟩ "FarmService") .epoch

/-- A store with two entries, which refuses the next commit. -/
def strikeStore : World Tables where
  now := .still .epoch
  ids := ⟨fun count => BitVec.ofNat 128 count, 4⟩
  store := { outbox := [hiredEntry, newsEntry], eventIds := [⟨21⟩, ⟨5⟩], failNextCommit := true }
  counters := {}

/-- The pipeline over it, whose only subscriber is the inbox. -/
def strike : Pipeline Unit (World Tables) := .start strikeStore {} ()

theorem receive_refused : ∃ reason after,
    Program.receive .standard ⟨hiredEntry.envelope, (), 1⟩ strike.shared =
      (.error reason, after) := by
  have opened : Message.ofEnvelope hiredEntry.envelope = .ok hired :=
    Message.ofEnvelope_envelope hired ⟨9⟩ "FarmService"
  have refused : Inbox.handle .standard hired (.ofEnvelope hiredEntry.envelope 1)
      strike.shared = (.error _, _) := rfl
  simp only [Program.receive, Inbox.process, opened, refused]
  exact ⟨_, _, rfl⟩

theorem unpublished_strike : strike.shared.store.unpublished 100 5 = [hiredEntry, newsEntry] := by
  have deliverable : strikeStore.store.outbox.filter (fun entry => entry.isDeliverable 5) =
      strikeStore.store.outbox := rfl
  have ordered : strikeStore.store.outbox.Pairwise fun first later =>
      decide (first.createdAt ≤ later.createdAt) = true := by decide
  change ((strikeStore.store.outbox.filter _).mergeSort _).take _ = _
  rw [deliverable, List.mergeSort_of_pairwise ordered]
  rfl

/-- The parcel for the inbox, at its second attempt. -/
def secondTry : Parcel Unit := ⟨hiredEntry.envelope, (), 2⟩

theorem beginPass_strike : ∃ told, RelayLoop.beginPass (Program.receive .standard) strike.plan 0
    (strike.broker, strike.shared) =
      (some ⟨hiredEntry, [secondTry], [newsEntry], 200⟩, strike.broker, told) := by
  obtain ⟨reason, after, refused⟩ := receive_refused
  have fetched : Hosts.run (strike.plan.relay.fetch strike.plan.batch)
      (strike.broker, strike.shared) =
        (.ok [hiredEntry, newsEntry], strike.broker, strike.shared) := by
    rw [Delivery.run_fetch]
    exact congrArg (fun taken => (Except.ok taken, strike.broker, strike.shared)) unpublished_strike
  have delivered : Broker.deliver (Program.receive .standard) ⟨hiredEntry.envelope, (), 1⟩
      (strike.broker, strike.shared) =
        (some secondTry, strike.broker, Hosts.count .redeliveries 1 after) := by
    simp only [Broker.deliver, refused]
    rfl
  have taken : strike.broker.accept hiredEntry.envelope =
      .ok (strike.broker, [⟨hiredEntry.envelope, (), 1⟩]) := by
    rw [Broker.accept_of_open rfl]
    rfl
  have sent : Broker.send (Program.receive .standard) hiredEntry.envelope
      (strike.broker, strike.shared) =
        (.ok [secondTry], strike.broker, Hosts.count .redeliveries 1 after) := by
    simp only [Broker.send, taken, Broker.round_cons, delivered]
    rfl
  have waits : RelayLoop.sendUnpaused (Program.receive .standard) hiredEntry.envelope
      (strike.broker, strike.shared) =
        (.ok [secondTry], strike.broker, Hosts.count .redeliveries 1 after) := by
    simp only [RelayLoop.sendUnpaused, bind, StateT.bind, sent]
    rfl
  refine ⟨Hosts.count .redeliveries 1 after, ?_⟩
  simp only [RelayLoop.beginPass, RelayLoop.deliverAll, bind, StateT.bind, fetched, waits]
  rfl

/-- After a moment the inbox has refused the first entry once, and the loop waits to deliver it
again. -/
theorem strike_waits : (Pipeline.wait (Program.receive .standard) 1 strike).2.loop =
    .delivering ⟨hiredEntry, [secondTry], [newsEntry], 200⟩ ⟨1000, 0⟩ := by
  obtain ⟨told, polled⟩ := beginPass_strike
  have begun : strike.stepAt (Program.receive .standard) 0 =
      { strike with loop := .idle ⟨0, 0⟩ } := rfl
  have passing :
      Pipeline.stepAt (Program.receive .standard) 0 { strike with loop := .idle ⟨0, 0⟩ } =
      ⟨strike.broker, told, strike.plan,
        .delivering ⟨hiredEntry, [secondTry], [newsEntry], 200⟩ ⟨1000, 0⟩, 0⟩ := by
    simp only [Pipeline.stepAt, RelayLoop.step, Nat.le_refl, if_true, bind, StateT.bind, polled]
    rfl
  change (Pipeline.runBefore (Program.receive .standard) 1 (18 + 1 + 1) strike).loop = _
  rw [Pipeline.runBefore_succ rfl Nat.one_pos, begun, Pipeline.runBefore_succ rfl Nat.one_pos,
    passing]
  rfl

/-- The pipeline while its pass waits. -/
def strikeInHand : Pipeline Unit (World Tables) :=
  (Pipeline.wait (Program.receive .standard) 1 strike).2

/-- The pipeline after it was stopped then. -/
def strikeOver : Pipeline Unit (World Tables) := strikeInHand.shutdown (Program.receive .standard)

/-- Stopped while it waits, the pass is gone through all the same: both entries are published and
marked, nothing is marked as failed, and the broker is closed after that. -/
theorem strike_costs_nothing : ∃ notes,
    LoopSteps (Program.receive .standard) strike.plan Nobody
      (.first (strike.broker, strike.shared)) (.ofPipeline strikeOver
        (notes ++ ([hiredEntry, newsEntry].flatMap notesOf ++ [.ended]) ++ [.left, .closed])) ∧
    GoneThrough (.ofPipeline strikeOver
      (notes ++ ([hiredEntry, newsEntry].flatMap notesOf ++ [.ended]) ++ [.left, .closed])) ∧
    strikeOver.broker.isClosed = true ∧ FailsNone strikeInHand.shared strikeOver.shared ∧
    IsPublished hiredEntry.id strikeOver.shared ∧ IsPublished newsEntry.id strikeOver.shared := by
  obtain ⟨courses, pipelines⟩ := shutdown_costs_no_attempt strike.plan (by decide)
  have used (pipeline : Pipeline Unit (World Tables)) := pipelines (Program.receive .standard)
    strike pipeline (Program.receive_keepsRows .standard) rfl rfl rfl
  obtain ⟨-, waits, -⟩ := used strike .first
  obtain ⟨plan_eq, -, steps⟩ := waits 1
  obtain ⟨notes, marked, steps⟩ := steps []
  obtain ⟨-, -, -, ends, rows⟩ := used strikeInHand (.wait 1 .first)
  obtain ⟨-, -, failsNone, published⟩ := rows (Program.receive_spares .standard)
  have within : strikeInHand.loop = _ := strike_waits
  have runs : strikeInHand.loop ≠ .stopped := by rw [within]; rintro ⟨⟩
  have onward := ends.steps runs notes
  rw [within, toCome_delivering, show strikeInHand.plan = strike.plan from plan_eq] at onward
  have all := Relation.ReflTransGen.trans steps onward
  have markedAll : AllMarked (notes ++ ([hiredEntry, newsEntry].flatMap notesOf ++ [.ended]) ++
      [.left, .closed]) :=
    (marked.append (by rintro _ _ member; simp [notesOf] at member)).append
      (by rintro _ _ member; simp at member)
  obtain ⟨through, -⟩ := (courses (Program.receive .standard) Nobody).1 _ _ rfl all markedAll
  have both := published _ _ within
  exact ⟨notes, all, through, ends.closed, failsNone, both _ List.mem_cons_self,
    both _ (List.mem_cons_of_mem _ List.mem_cons_self)⟩

end Fieldwatch.Stopping
