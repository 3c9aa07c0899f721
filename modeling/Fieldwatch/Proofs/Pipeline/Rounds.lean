import Fieldwatch.Proofs.Pipeline.Running
import Fieldwatch.Proofs.Pipeline.Signals

/-!
# The rounds of a pass

What the loop of a pipeline does when its time has come is a row of the things that a loop may do:
it takes entries, hands them over, makes a round of attempts after each wait, and marks what was
delivered. With every round an attempt is used up, so that a bound on the rounds that a pass still
takes is known from its entries and the attempts that they have.
-/
namespace Fieldwatch

open Delivery (outboxOf run_fetch settle_of_row)

/-! ## What is kept -/

section Kept

variable {ι ω : Type} [Hosts ω Tables]

/-- Whether a broker has its policy still and is as open as it was, beside an outbox that keeps its
rows. -/
structure Kept (before after : Broker ι × ω) : Prop extends Steady before after where
  policy_eq : after.1.policy = before.1.policy

theorem Kept.refl (state : Broker ι × ω) : Kept state state := ⟨.refl state, rfl⟩

theorem Kept.trans {before middle after : Broker ι × ω} (first : Kept before middle)
    (second : Kept middle after) : Kept before after :=
  ⟨first.toSteady.trans second.toSteady, second.policy_eq.trans first.policy_eq⟩

namespace Broker

variable {handle : Handler ι ω}

/-- What is to be delivered after a round has had one attempt more. -/
theorem round_again (parcels : List (Parcel ι)) (state : Broker ι × ω) :
    ∀ next ∈ (round handle parcels state).1, ∃ parcel ∈ parcels,
      parcel.attempt < state.1.policy.maxAttempts ∧ next.attempt = parcel.attempt + 1 := by
  induction parcels generalizing state with
  | nil => rintro _ ⟨⟩
  | cons parcel rest ih =>
    intro next member
    rw [round_cons] at member
    rcases List.mem_append.mp member with here | later
    · exact ⟨parcel, List.mem_cons_self, deliver_again rfl next (Option.mem_toList.mp here)⟩
    · obtain ⟨other, among, counted⟩ := ih _ next later
      rw [(deliver_lettersOnly handle parcel state).policy_eq] at counted
      exact ⟨other, List.mem_cons_of_mem _ among, counted⟩

variable (keeps : ∀ parcel shared, KeepsRows shared (handle parcel shared).2)
include keeps

theorem round_kept (parcels : List (Parcel ι)) (state : Broker ι × ω) :
    Kept state (round handle parcels state).2 :=
  ⟨round_steady keeps parcels state, (round_lettersOnly handle parcels state).policy_eq⟩

theorem send_kept (envelope : Envelope) (state : Broker ι × ω) :
    Kept state (send handle envelope state).2 := by
  obtain ⟨broker, shared⟩ := state
  rcases taken : broker.accept envelope with error | ⟨accepted, parcels⟩
  · simp only [send, taken]
    exact .refl _
  · simp only [send, taken]
    obtain ⟨policy, isClosed⟩ := accept_keeps taken
    have handed : Kept (broker, shared) (accepted, shared) :=
      ⟨⟨isClosed, List.Subset.refl _⟩, policy⟩
    exact handed.trans (round_kept keeps parcels _)

end Broker

/-- Settling an entry that has a row keeps what there is. -/
theorem settle_kept {entry : OutboxEntry} {state : Broker ι × ω}
    (there : entry.id ∈ (outboxOf state.2).map OutboxEntry.id) :
    ∃ after, Hosts.run (Relay.settle entry (.ok ())) state = (.ok (), after) ∧
      Kept state after := by
  obtain ⟨after, settled, steady⟩ := settle_steady there
  exact ⟨after, settled, steady, congrArg (fun answer => answer.2.1.policy) settled.symm⟩

end Kept

namespace Stopping

variable {ι ω : Type} [Hosts ω Tables] {handle : Broker.Handler ι ω} {plan : LoopPlan}

/-! ## The loop on its own -/

/-- Whether the loop comes from one place of a pass to another on its own, and every answer is
written down. -/
def Leads (handle : Broker.Handler ι ω) (plan : LoopPlan) (state : Broker ι × ω) (place : Place ι)
    (after : Broker ι × ω) (next : Place ι) : Prop :=
  ∃ more, AllMarked more ∧ Busy handle plan state place more after next

theorem Leads.refl (state : Broker ι × ω) (place : Place ι) :
    Leads handle plan state place state place :=
  ⟨[], .nil, .refl⟩

theorem Leads.trans {state middle after : Broker ι × ω} {place between next : Place ι}
    (first : Leads handle plan state place middle between)
    (second : Leads handle plan middle between after next) :
    Leads handle plan state place after next := by
  obtain ⟨more, marked, busy⟩ := first
  obtain ⟨rest, markedToo, onward⟩ := second
  exact ⟨more ++ rest, marked.append markedToo, busy.trans onward⟩

theorem Leads.of_advance {state after : Broker ι × ω} {place next : Place ι} {more : List Note}
    (within : place.IsWithin) (advance : Advance handle plan state place more after next)
    (marked : AllMarked more) : Leads handle plan state place after next :=
  ⟨more, marked, .of_advance within advance⟩

/-- Whether the loop comes from one place to another while nobody works beside it, and every answer
is written down. -/
def Alone (handle : Broker.Handler ι ω) (plan : LoopPlan) (state : Broker ι × ω) (place : Place ι)
    (after : Broker ι × ω) (next : Place ι) : Prop :=
  ∃ more, AllMarked more ∧ ∀ signal closing notes, LoopSteps handle plan Nobody
    ⟨state, place, signal, closing, notes⟩ ⟨after, next, signal, closing, notes ++ more⟩

theorem Alone.refl (state : Broker ι × ω) (place : Place ι) :
    Alone handle plan state place state place :=
  ⟨[], .nil, fun _ _ notes => by rw [List.append_nil]⟩

theorem Alone.trans {state middle after : Broker ι × ω} {place between next : Place ι}
    (first : Alone handle plan state place middle between)
    (second : Alone handle plan middle between after next) :
    Alone handle plan state place after next := by
  obtain ⟨more, marked, steps⟩ := first
  obtain ⟨rest, markedToo, onward⟩ := second
  refine ⟨more ++ rest, marked.append markedToo, fun signal closing notes => ?_⟩
  have steps := (steps signal closing notes).trans (onward signal closing (notes ++ more))
  rwa [List.append_assoc] at steps

theorem Alone.of_advance {state after : Broker ι × ω} {place next : Place ι} {more : List Note}
    (advance : Advance handle plan state place more after next) (marked : AllMarked more) :
    Alone handle plan state place after next :=
  ⟨more, marked, fun _ _ _ => .single (.advance advance)⟩

theorem Leads.alone {state after : Broker ι × ω} {place next : Place ι}
    (leads : Leads handle plan state place after next) :
    Alone handle plan state place after next := by
  obtain ⟨more, marked, busy⟩ := leads
  exact ⟨more, marked, busy.steps⟩

/-- A round is a row of attempts. -/
theorem round_leads (entry : OutboxEntry) (rest : List OutboxEntry)
    (before parcels : List (Parcel ι)) (state : Broker ι × ω) :
    Leads handle plan state (.delivering entry (before ++ parcels) rest)
      (Broker.round handle parcels state).2
      (.delivering entry (before ++ (Broker.round handle parcels state).1) rest) := by
  induction parcels generalizing before state with
  | nil => exact .refl _ _
  | cons parcel later ih =>
    have one : Leads handle plan state (.delivering entry (before ++ parcel :: later) rest) _ _ :=
      .of_advance trivial (.attempt rfl) .nil
    have others := one.trans (ih _ _)
    rwa [List.append_assoc before] at others

/-! ## The attempts that are left -/

/-- Whether parcels may be delivered again, but at most a number of times. -/
def AttemptsLeft (policy : BrokerPolicy) (left : Nat) (parcels : List (Parcel ι)) : Prop :=
  ∀ parcel ∈ parcels, parcel.attempt ≤ policy.maxAttempts ∧
    policy.maxAttempts.toNat < parcel.attempt.toNat + left

theorem AttemptsLeft.pos {policy : BrokerPolicy} {left : Nat} {parcels : List (Parcel ι)}
    (few : AttemptsLeft policy left parcels) (some : parcels ≠ []) : 0 < left := by
  obtain ⟨parcel, member⟩ := List.exists_mem_of_ne_nil parcels some
  obtain ⟨le, lt⟩ := few parcel member
  have := UInt32.le_iff_toNat_le.mp le
  omega

/-- A round uses up an attempt. -/
theorem AttemptsLeft.round {left : Nat} {parcels : List (Parcel ι)} {state : Broker ι × ω}
    (enough : ∀ parcel ∈ parcels,
      state.1.policy.maxAttempts.toNat < parcel.attempt.toNat + (left + 1)) :
    AttemptsLeft state.1.policy left (Broker.round handle parcels state).1 := by
  intro next member
  obtain ⟨parcel, among, counted⟩ := Broker.round_again parcels state next member
  exact Broker.enough_rounds counted (enough parcel among)

/-- Whether a pass can be gone through: its entries have rows, and it is over after a number of
rounds at most. -/
structure InHand (rounds : Nat) (state : Broker ι × ω) (pass : Pass ι) : Prop where
  some : pass.parcels ≠ []
  few : ∃ left ≤ state.1.policy.maxAttempts.toNat,
    AttemptsLeft state.1.policy left pass.parcels ∧
      pass.rest.length * (state.1.policy.maxAttempts.toNat + 1) + left ≤ rounds
  rows : (pass.entry :: pass.rest).map OutboxEntry.id ⊆ (outboxOf state.2).map OutboxEntry.id

theorem InHand.kept {rounds : Nat} {state after : Broker ι × ω} {pass : Pass ι}
    (inHand : InHand rounds state pass) (kept : Kept state after) : InHand rounds after pass := by
  obtain ⟨some, few, rows⟩ := inHand
  rw [← kept.policy_eq] at few
  exact ⟨some, few, List.Subset.trans rows kept.rows⟩

/-! ## A pass of a pipeline -/

/-- The place of a loop that may be within a pass. -/
def Place.within : Option (Pass ι) → Place ι
  | some pass => .delivering pass.entry pass.parcels pass.rest
  | none => .listening

/-- What becomes of a place in a pass of which a number of rounds is to come at most: the loop comes
to the end of the pass or to the next wait on its own, and keeps what there is. -/
structure Goes (handle : Broker.Handler ι ω) (plan : LoopPlan) (rounds : Nat)
    (state : Broker ι × ω) (place : Place ι) (out : Option (Pass ι) × Broker ι × ω) : Prop where
  leads : Leads handle plan state place out.2 (.within out.1)
  kept : Kept state out.2
  inHand : ∀ pass ∈ out.1, InHand rounds out.2 pass

/-- An entry that was delivered is marked. -/
theorem settle_leads {entry : OutboxEntry} (rest : List OutboxEntry) {state : Broker ι × ω}
    (there : entry.id ∈ (outboxOf state.2).map OutboxEntry.id) :
    ∃ after, Hosts.run (Relay.settle entry (.ok ())) state = (.ok (), after) ∧
      Leads handle plan state (.delivering entry [] rest) after (.passing rest) ∧
      Kept state after := by
  obtain ⟨after, settled, kept⟩ := settle_kept there
  have answered : Leads handle plan state (.delivering entry [] rest) state
      (.settling entry (.ok ()) rest) :=
    .of_advance trivial .delivered (.singleton (by rintro _ _ ⟨⟩))
  have marked : Leads handle plan state (.settling entry (.ok ()) rest) after (.passing rest) :=
    .of_advance trivial (.mark settled) (.singleton (by rintro _ _ ⟨⟩))
  exact ⟨after, settled, answered.trans marked, kept⟩

theorem deliverUnpaused_cons (rounds : Nat) (parcel : Parcel ι) (later : List (Parcel ι))
    (state : Broker ι × ω) :
    RelayLoop.deliverUnpaused handle (rounds + 1) (parcel :: later) state =
      if state.1.policy.pause (parcel :: later) = 0 then
        RelayLoop.deliverUnpaused handle rounds (Broker.round handle (parcel :: later) state).1
          (Broker.round handle (parcel :: later) state).2
      else (parcel :: later, state) := by
  simp only [RelayLoop.deliverUnpaused, bind, StateT.bind, get, getThe, MonadStateOf.get,
    StateT.get, pure]
  split <;> rfl

section Rounds

variable (keeps : ∀ parcel shared, KeepsRows shared (handle parcel shared).2)
include keeps

theorem deliverUnpaused_leads (entry : OutboxEntry) (rest : List OutboxEntry) {left : Nat}
    (rounds : Nat) {parcels : List (Parcel ι)} {state : Broker ι × ω}
    (few : AttemptsLeft state.1.policy left parcels) :
    ∃ again after, RelayLoop.deliverUnpaused handle rounds parcels state = (again, after) ∧
      Leads handle plan state (.delivering entry parcels rest) after
        (.delivering entry again rest) ∧
      Kept state after ∧ AttemptsLeft after.1.policy left again := by
  induction rounds generalizing parcels state with
  | zero => exact ⟨parcels, state, rfl, .refl _ _, .refl _, few⟩
  | succ rounds ih =>
    cases parcels with
    | nil => exact ⟨[], state, rfl, .refl _ _, .refl _, few⟩
    | cons parcel later =>
      by_cases paused : state.1.policy.pause (parcel :: later) = 0
      · have attempts : AttemptsLeft state.1.policy left
            (Broker.round handle (parcel :: later) state).1 :=
          .round fun parcel member => by have := (few parcel member).2; omega
        have first : Leads handle plan state (.delivering entry (parcel :: later) rest) _ _ :=
          round_leads entry rest [] (parcel :: later) state
        have kept := Broker.round_kept keeps (parcel :: later) state
        rw [← kept.policy_eq] at attempts
        obtain ⟨again, after, ran, leads, keptToo, fewToo⟩ := ih attempts
        refine ⟨again, after, ?_, first.trans leads, kept.trans keptToo, fewToo⟩
        rw [deliverUnpaused_cons, if_pos paused]
        exact ran
      · refine ⟨parcel :: later, state, ?_, .refl _ _, .refl _, few⟩
        rw [deliverUnpaused_cons, if_neg paused]

/-- An open broker takes an entry, and the loop waits with it or has it delivered. -/
theorem sendUnpaused_leads (entry : OutboxEntry) (rest : List OutboxEntry) {state : Broker ι × ω}
    (isOpen : state.1.isClosed = false) :
    ∃ again after,
      RelayLoop.sendUnpaused handle entry.envelope state = (.ok again, after) ∧
      Leads handle plan state (.passing (entry :: rest)) after (.delivering entry again rest) ∧
      Kept state after ∧
      AttemptsLeft after.1.policy after.1.policy.maxAttempts.toNat again := by
  obtain ⟨broker, shared⟩ := state
  rcases taken : broker.accept entry.envelope with error | ⟨accepted, parcels⟩
  · rw [Broker.accept_of_open isOpen] at taken
    cases taken
  · have sent : Broker.send handle entry.envelope (broker, shared) =
        (.ok (Broker.round handle parcels (accepted, shared)).1,
          (Broker.round handle parcels (accepted, shared)).2) := by
      simp only [Broker.send, taken]
      rfl
    have kept := Broker.send_kept keeps entry.envelope (broker, shared)
    rw [sent] at kept
    have handed : Leads handle plan (broker, shared) (.passing (entry :: rest)) _ _ :=
      .of_advance trivial (.hand taken) .nil
    have went := handed.trans (round_leads entry rest [] parcels (accepted, shared))
    -- with the first attempt behind them, as many rounds as attempts are enough
    have attempts : AttemptsLeft accepted.policy accepted.policy.maxAttempts.toNat
        (Broker.round handle parcels (accepted, shared)).1 :=
      .round fun parcel _ => by dsimp only; omega
    have policy := (Broker.round_kept keeps parcels (accepted, shared)).policy_eq
    dsimp only at policy
    rw [← policy] at attempts
    obtain ⟨again, after, ran, leads, keptToo, few⟩ :=
      deliverUnpaused_leads keeps entry rest
        (Broker.round handle parcels (accepted, shared)).2.1.policy.maxAttempts.toNat attempts
    refine ⟨again, after, ?_, went.trans leads, kept.trans keptToo, ?_⟩
    · simp only [RelayLoop.sendUnpaused, bind, StateT.bind, sent, get, getThe, MonadStateOf.get,
        StateT.get, pure, ran]
      rfl
    · rw [keptToo.policy_eq] at few ⊢
      exact few

theorem deliverAll_goes (now : Nat) {entries : List OutboxEntry} {state : Broker ι × ω}
    (isOpen : state.1.isClosed = false)
    (rows : entries.map OutboxEntry.id ⊆ (outboxOf state.2).map OutboxEntry.id) {rounds : Nat}
    (enough : entries.length * (state.1.policy.maxAttempts.toNat + 1) ≤ rounds + 1) :
    Goes handle plan rounds state (.passing entries)
      (RelayLoop.deliverAll handle now entries state) := by
  induction entries generalizing state with
  | nil =>
    have ended : Leads handle plan state (.passing []) state .listening :=
      .of_advance trivial .finish (.singleton (by rintro _ _ ⟨⟩))
    exact ⟨ended, .refl state, by rintro _ ⟨⟩⟩
  | cons entry rest ih =>
    obtain ⟨again, told, ran, sent, kept, few⟩ := sendUnpaused_leads keeps entry rest isOpen
    have rowsToo := List.Subset.trans rows kept.rows
    rw [List.length_cons, ← kept.policy_eq, Nat.add_one_mul] at enough
    cases again with
    | cons parcel parcels =>
      have waits : RelayLoop.deliverAll handle now (entry :: rest) state =
          (some ⟨entry, parcel :: parcels, rest, now + told.1.policy.pause (parcel :: parcels)⟩,
            told) := by
        simp only [RelayLoop.deliverAll, bind, StateT.bind, ran]
        rfl
      rw [waits]
      refine ⟨sent, kept, ?_⟩
      rintro _ ⟨⟩
      exact ⟨List.cons_ne_nil _ _, ⟨_, Nat.le_refl _, few, by dsimp only; omega⟩, rowsToo⟩
    | nil =>
      rw [List.map_cons, List.cons_subset] at rowsToo
      obtain ⟨there, others⟩ := rowsToo
      obtain ⟨marked, settled, marks, keptToo⟩ := settle_leads rest there
      have goesOn : RelayLoop.deliverAll handle now (entry :: rest) state =
          RelayLoop.deliverAll handle now rest marked := by
        simp only [RelayLoop.deliverAll, bind, StateT.bind, ran, settled]
      have all := kept.trans keptToo
      obtain ⟨leads, keptLast, inHand⟩ := ih (all.isClosed_eq.trans isOpen)
        (List.Subset.trans others keptToo.rows) (by rw [keptToo.policy_eq]; omega)
      rw [goesOn]
      exact ⟨(sent.trans marks).trans leads, all.trans keptLast, inHand⟩

/-- A pass whose wait is over comes one round nearer to its end. -/
theorem resume_goes (now : Nat) {pass : Pass ι} {rounds : Nat} {state : Broker ι × ω}
    (isOpen : state.1.isClosed = false) (inHand : InHand (rounds + 1) state pass) :
    Goes handle plan rounds state (.within (some pass))
      (RelayLoop.resume handle now pass state) := by
  obtain ⟨entry, parcels, rest, wake⟩ := pass
  obtain ⟨waiting, ⟨left, le, few, enough⟩, rows⟩ := inHand
  obtain ⟨left, rfl⟩ := Nat.exists_eq_add_of_lt (few.pos waiting)
  rw [Nat.zero_add] at le few enough
  have went : Leads handle plan state (.delivering entry parcels rest) _ _ :=
    round_leads entry rest [] parcels state
  have kept := Broker.round_kept keeps parcels state
  have attempts : AttemptsLeft state.1.policy left (Broker.round handle parcels state).1 :=
    .round fun parcel member => (few parcel member).2
  have rowsToo := List.Subset.trans rows kept.rows
  rcases ran : Broker.round handle parcels state with ⟨again, told⟩
  rw [ran] at went kept attempts rowsToo
  rw [← kept.policy_eq] at attempts le enough
  dsimp only at le enough
  cases again with
  | cons parcel later =>
    have waits : RelayLoop.resume handle now ⟨entry, parcels, rest, wake⟩ state =
        (some ⟨entry, parcel :: later, rest, now + told.1.policy.pause (parcel :: later)⟩,
          told) := by
      simp only [RelayLoop.resume, bind, StateT.bind, ran]
      rfl
    rw [waits]
    refine ⟨went, kept, ?_⟩
    rintro _ ⟨⟩
    exact ⟨List.cons_ne_nil _ _, ⟨left, Nat.le_of_succ_le le, attempts, by dsimp only; omega⟩,
      rowsToo⟩
  | nil =>
    rw [List.map_cons, List.cons_subset] at rowsToo
    obtain ⟨there, others⟩ := rowsToo
    obtain ⟨marked, settled, marks, keptToo⟩ := settle_leads rest there
    have goesOn : RelayLoop.resume handle now ⟨entry, parcels, rest, wake⟩ state =
        RelayLoop.deliverAll handle now rest marked := by
      simp only [RelayLoop.resume, bind, StateT.bind, ran, settled]
    have all := kept.trans keptToo
    have shorter : rest.length * (marked.1.policy.maxAttempts.toNat + 1) ≤ rounds + 1 := by
      rw [keptToo.policy_eq]
      dsimp only
      omega
    have goes : Goes handle plan rounds marked (.passing rest) _ :=
      deliverAll_goes keeps now (all.isClosed_eq.trans isOpen)
        (List.Subset.trans others keptToo.rows) shorter
    obtain ⟨leads, keptLast, inHand⟩ := goes
    rw [goesOn]
    exact ⟨(went.trans marks).trans leads, all.trans keptLast, inHand⟩

end Rounds

/-! ## The steps of a loop -/

/-- More rounds than the rest of a pass takes. -/
def roundsLeft (broker : Broker ι) (pass : Pass ι) : Nat :=
  (pass.rest.length + 1) * (broker.policy.maxAttempts.toNat + 1)

theorem InHand.roundsLeft {rounds : Nat} {state : Broker ι × ω} {pass : Pass ι}
    (inHand : InHand rounds state pass) : InHand (roundsLeft state.1 pass) state pass := by
  obtain ⟨some, ⟨left, le, few, -⟩, rows⟩ := inHand
  refine ⟨some, ⟨left, le, few, ?_⟩, rows⟩
  rw [Stopping.roundsLeft, Nat.add_one_mul]
  omega

/-- Whether a loop runs beside an open broker, within a pass that can be gone through if any. -/
def Running (state : Broker ι × ω) : RelayLoop ι → Prop
  | .starting | .idle _ => state.1.isClosed = false
  | .delivering pass _ => state.1.isClosed = false ∧ InHand (roundsLeft state.1 pass) state pass
  | .stopped | .broken => False

/-- The place of a loop. -/
def Place.ofLoop : RelayLoop ι → Place ι
  | .starting => .starting
  | .idle _ => .listening
  | .delivering pass _ => .within (some pass)
  | .stopped => .left
  | .broken => .broken

theorem Place.ofLoop_within (ticks : Ticks) (pass : Option (Pass ι)) :
    Place.ofLoop (.within ticks pass) = .within pass := by
  cases pass <;> rfl

theorem Goes.running {rounds : Nat} {state : Broker ι × ω} {place : Place ι}
    {out : Option (Pass ι) × Broker ι × ω} (goes : Goes handle plan rounds state place out)
    (isOpen : state.1.isClosed = false) (ticks : Ticks) :
    Running out.2 (.within ticks out.1) := by
  have stillOpen := goes.kept.isClosed_eq.trans isOpen
  rcases reached : out.1 with _ | pass
  · exact stillOpen
  · exact ⟨stillOpen, (goes.inHand pass reached).roundsLeft⟩

/-- A pruning leaves the loop where it is, also if there is nothing to prune. -/
theorem prune_alone (handle : Broker.Handler ι ω) (plan : LoopPlan) (state : Broker ι × ω) :
    Alone handle plan state .listening (Hosts.run plan.relay.prune state).2 .listening := by
  cases kept : plan.relay.retention with
  | none =>
    have idle : (Hosts.run plan.relay.prune state).2 = state := by
      simp only [Relay.prune, kept]
      exact Hosts.withWorld_world state
    rw [idle]
    exact .refl _ _
  | some retention => exact .of_advance (.prune (by rw [kept]; rfl) rfl) .nil

section Steps

variable (keeps : ∀ parcel shared, KeepsRows shared (handle parcel shared).2)
include keeps

theorem beginPass_goes (plan : LoopPlan) (now : Nat) {state : Broker ι × ω}
    (isOpen : state.1.isClosed = false) :
    ∃ rounds entries, Hosts.run (plan.relay.fetch plan.batch) state = (.ok entries, state) ∧
      Goes handle plan rounds state (.passing entries)
        (RelayLoop.beginPass handle plan now state) := by
  have fetched := run_fetch plan.relay plan.batch state
  have rows : ((Hosts.world state).store.unpublished plan.batch plan.relay.maxAttempts).map
      OutboxEntry.id ⊆ (outboxOf state.2).map OutboxEntry.id :=
    List.map_subset _ fun _ => Tables.mem_of_mem_unpublished
  have goes : Goes handle plan _ state _ _ :=
    deliverAll_goes keeps now isOpen rows (Nat.le_succ _)
  have ran : RelayLoop.beginPass handle plan now state = RelayLoop.deliverAll handle now
      ((Hosts.world state).store.unpublished plan.batch plan.relay.maxAttempts) state := by
    simp only [RelayLoop.beginPass, bind, StateT.bind, fetched]
  rw [ran]
  exact ⟨_, _, fetched, goes⟩

/-- What a running loop does when its time has come it does alone, and it runs still. -/
theorem step_alone (timed : plan.period ≠ 0) (now : Nat) {loop : RelayLoop ι}
    {state : Broker ι × ω} (running : Running state loop) :
    Alone handle plan state (.ofLoop loop) (loop.step handle plan now state).2
        (.ofLoop (loop.step handle plan now state).1) ∧
      Running (loop.step handle plan now state).2 (loop.step handle plan now state).1 := by
  cases loop with
  | starting =>
    have begun : RelayLoop.step handle plan now .starting state = (.idle ⟨now, now⟩, state) := by
      simp only [RelayLoop.step]
      rw [if_neg timed]
      rfl
    rw [begun]
    exact ⟨.of_advance (.begin timed) .nil, running⟩
  | idle ticks =>
    by_cases due : ticks.pass ≤ now
    · obtain ⟨rounds, entries, fetched, goes⟩ := beginPass_goes keeps plan now running
      have polled : RelayLoop.step handle plan now (.idle ticks) state =
          (.within { ticks with pass := Ticks.after ticks.pass plan.period now }
            (RelayLoop.beginPass handle plan now state).1,
            (RelayLoop.beginPass handle plan now state).2) := by
        simp only [RelayLoop.step, if_pos due]
        rfl
      rw [polled]
      dsimp only
      rw [Place.ofLoop_within]
      have began : Alone handle plan state .listening state (.passing entries) :=
        .of_advance (.poll fetched) (.singleton (by rintro _ _ ⟨⟩))
      exact ⟨began.trans goes.leads.alone, goes.running running _⟩
    · simp only [RelayLoop.step, if_neg due]
      exact ⟨prune_alone handle plan state, running⟩
  | delivering pass ticks =>
    obtain ⟨isOpen, inHand⟩ := running
    have goes : Goes handle plan _ state _ _ := resume_goes keeps now isOpen inHand
    have resumed : RelayLoop.step handle plan now (.delivering pass ticks) state =
        (.within ticks (RelayLoop.resume handle now pass state).1,
          (RelayLoop.resume handle now pass state).2) := rfl
    rw [resumed]
    dsimp only
    rw [Place.ofLoop_within]
    exact ⟨goes.leads.alone, goes.running isOpen ticks⟩
  | stopped | broken => exact running.elim

end Steps
end Stopping
end Fieldwatch
