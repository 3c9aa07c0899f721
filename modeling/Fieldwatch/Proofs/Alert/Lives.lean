import Mathlib.Data.List.Induction
import Mathlib.Tactic.SplitIfs
import Fieldwatch.Alert.Command

/-!
# Lives of alerts

An alert that was raised or restored is acknowledged, resolved and stored, in any order and however
often; what its status does not allow is refused. Whatever is done with it, its state is what its
events make of the state it began with, and its events are an acknowledgement at most, and then a
resolution at most.
-/
namespace Fieldwatch.Alert

/-! ## Acts -/

/-- Whether an alert has just come to hand: it was raised, or restored from its record. -/
inductive Begun : Alert → Prop
  | raised {id : EntityId} {input : NewAlert} {now : Instant} {alert : Alert}
    (accepted : raise id input now = .ok alert) : Begun alert
  | restored (record : AlertRecord) (version : Int) : Begun (restore record version)

/-- What may be done with an alert at hand. -/
inductive Act
  | acknowledge (actor : Option OwnerId) (now : Instant) (unnamed : EntityId)
  | resolve (actor : Option OwnerId) (notes : Option String) (now : Instant) (unnamed : EntityId)
  /-- The pending events are stored. -/
  | commit
  deriving DecidableEq

def Act.perform (act : Act) (alert : Alert) : Except (AlertError × Alert) Alert :=
  match act with
  | acknowledge actor now unnamed => alert.acknowledge actor now unnamed
  | resolve actor notes now unnamed => alert.resolve actor notes now unnamed
  | commit => .ok alert.committed

/-- The alert as an act leaves it, carried out or refused. -/
def Act.leave (act : Act) (alert : Alert) : Alert :=
  match act.perform alert with
  | .ok next => next
  | .error (_, left) => left

/-- The event that an act records on an alert that allows it: one that is pending may be
acknowledged, and one that is not resolved may be, with notes that are not too long. -/
inductive Records (alert : Alert) : Act → AlertEvent → Prop
  | acknowledged {actor : Option OwnerId} {now : Instant} {unnamed : EntityId}
    (allowed : alert.state.status = .pending) :
    Records alert (.acknowledge actor now unnamed)
      (.acknowledged ⟨alert.state.id.getD unnamed, actor, now⟩)
  | resolved {actor : Option OwnerId} {notes : Option String} {now : Instant} {unnamed : EntityId}
    (allowed : alert.state.status ≠ .resolved)
    (short : ∀ kept ∈ notes.bind Text.trimmed?, kept.length ≤ maxNotesLength) :
    Records alert (.resolve actor notes now unnamed)
      (.resolved ⟨alert.state.id.getD unnamed, actor, notes.bind Text.trimmed?, now⟩)

variable {start alert next : Alert} {act : Act} {event : AlertEvent}

/-- A command is carried out exactly when the alert allows it, and records its event. -/
theorem perform_eq_ok_iff (command : act ≠ .commit) :
    act.perform alert = .ok next ↔
      ∃ event, Records alert act event ∧ next = alert.record event := by
  cases act with
  | acknowledge actor now unnamed =>
    rw [Act.perform, acknowledge]
    constructor
    · intro carried
      split at carried
      · next allowed =>
        cases carried
        exact ⟨_, .acknowledged (by simpa [AlertStatus.canAcknowledge] using allowed), rfl⟩
      · cases carried
    · rintro ⟨_, ⟨allowed⟩, rfl⟩
      rw [if_pos (by simpa [AlertStatus.canAcknowledge] using allowed)]
  | resolve actor notes now unnamed =>
    rw [Act.perform, resolve]
    dsimp only
    have short_iff : ¬ maxNotesLength < ((notes.bind Text.trimmed?).map String.length).getD 0 ↔
        ∀ kept ∈ notes.bind Text.trimmed?, kept.length ≤ maxNotesLength := by
      cases notes.bind Text.trimmed? <;> simp
    constructor
    · intro carried
      split_ifs at carried with allowed long
      cases carried
      refine ⟨_, .resolved ?_ (short_iff.mp long), rfl⟩
      simpa [AlertStatus.canResolve, AlertStatus.isTerminal] using allowed
    · rintro ⟨_, records, rfl⟩
      cases records with
      | resolved allowed short =>
        rw [if_pos (by simpa [AlertStatus.canResolve, AlertStatus.isTerminal] using allowed),
          if_neg (short_iff.mpr short)]
  | commit => exact absurd rfl command

/-- A command that is refused leaves the alert as it is. -/
theorem left_of_refusal {error : AlertError} {left : Alert}
    (refusal : act.perform alert = .error (error, left)) : left = alert := by
  cases act with
  | acknowledge actor now unnamed =>
    rw [Act.perform, acknowledge] at refusal
    split_ifs at refusal
    cases refusal
    rfl
  | resolve actor notes now unnamed =>
    rw [Act.perform, resolve] at refusal
    dsimp only at refusal
    split_ifs at refusal
    all_goals
      cases refusal
      rfl
  | commit => cases refusal

/-! ## Lives -/

/-- An alert, and the events recorded on it since it came to hand, oldest first. -/
structure Life where
  alert : Alert
  events : List AlertEvent

/-- A life after an act, carried out or refused. -/
def Life.after (life : Life) (act : Act) : Life :=
  ⟨act.leave life.alert,
    life.events ++ (act.leave life.alert).pending.drop life.alert.pending.length⟩

/-- The life of an alert under acts, one after the other. -/
def live (start : Alert) (acts : List Act) : Life := acts.foldl Life.after ⟨start, []⟩

theorem live_append_singleton (start : Alert) (acts : List Act) (act : Act) :
    live start (acts ++ [act]) = (live start acts).after act :=
  List.foldl_append

/-- What an act makes of a life. -/
inductive Lives (life : Life) : Act → Life → Prop
  | refused {act : Act} {error : AlertError} {left : Alert}
    (refusal : act.perform life.alert = .error (error, left)) : Lives life act life
  | recorded {act : Act} {event : AlertEvent} (records : Records life.alert act event) :
    Lives life act ⟨life.alert.record event, life.events ++ [event]⟩
  | committed : Lives life .commit ⟨life.alert.committed, life.events⟩

/-- An act that is refused is as if it had not been tried. -/
theorem Life.after_of_refusal {life : Life} {error : AlertError} {left : Alert}
    (refusal : act.perform life.alert = .error (error, left)) : life.after act = life := by
  have same : act.leave life.alert = life.alert := by
    rw [Act.leave, refusal]
    exact left_of_refusal refusal
  rw [Life.after, same, List.drop_length, List.append_nil]

/-- An event that an act records goes on with the life. -/
theorem Life.after_of_records {life : Life} (records : Records life.alert act event) :
    life.after act = ⟨life.alert.record event, life.events ++ [event]⟩ := by
  have command : act ≠ .commit := by
    rintro rfl
    cases records
  have left : act.leave life.alert = life.alert.record event := by
    rw [Act.leave, (perform_eq_ok_iff command).mpr ⟨event, records, rfl⟩]
  rw [Life.after, left]
  simp [Tracked.record]

theorem Life.after_commit (life : Life) :
    life.after .commit = ⟨life.alert.committed, life.events⟩ := by
  simp [Life.after, Act.leave, Act.perform, Tracked.committed]

theorem lives_after (life : Life) (act : Act) : Lives life act (life.after act) := by
  by_cases command : act = .commit
  · subst command
    rw [Life.after_commit]
    exact .committed
  · cases performed : act.perform life.alert with
    | ok next =>
      obtain ⟨event, records, -⟩ := (perform_eq_ok_iff command).mp performed
      rw [Life.after_of_records records]
      exact .recorded records
    | error refusal =>
      rw [Life.after_of_refusal performed]
      exact .refused performed

/-! ## What lives keep -/

/-- How events may lead from one status to another. -/
inductive Unfolds (start : AlertStatus) : List AlertEvent → AlertStatus → Prop
  | untouched : Unfolds start [] start
  | acknowledged (data : AlertAcknowledged) (allowed : start = .pending) :
    Unfolds start [.acknowledged data] .acknowledged
  | resolved (data : AlertResolved) (allowed : start ≠ .resolved) :
    Unfolds start [.resolved data] .resolved
  | acknowledgedThenResolved (seen : AlertAcknowledged) (closed : AlertResolved)
    (allowed : start = .pending) :
    Unfolds start [.acknowledged seen, .resolved closed] .resolved

theorem Unfolds.length_le {start finish : AlertStatus} {events : List AlertEvent}
    (unfolds : Unfolds start events finish) : events.length ≤ 2 := by
  cases unfolds <;> simp

/-- The event that an act records goes on from the status of the alert. -/
theorem Unfolds.record {start : AlertStatus} {events : List AlertEvent}
    (unfolds : Unfolds start events alert.state.status) (records : Records alert act event) :
    Unfolds start (events ++ [event]) (alert.record event).state.status := by
  cases records with
  | acknowledged allowed =>
    rw [allowed] at unfolds
    cases unfolds with
    | untouched => exact .acknowledged _ rfl
  | resolved allowed _ =>
    generalize alert.state.status = status at unfolds allowed
    cases unfolds with
    | untouched => exact .resolved _ allowed
    | acknowledged seen pending => exact .acknowledgedThenResolved seen _ pending
    | resolved _ _ => exact absurd rfl allowed
    | acknowledgedThenResolved _ _ _ => exact absurd rfl allowed

theorem replay_append_singleton (state : AlertState) (events : List AlertEvent)
    (event : AlertEvent) :
    Tracked.replay state (events ++ [event]) = (Tracked.replay state events).apply event :=
  List.foldl_append

/-- Whether a life is what became of an alert that began as it is said: its state is made by its
events, these follow the course of an alert, those that are pending name it, and its version counts
those that are stored. -/
structure Lived (start : Alert) (life : Life) : Prop where
  state : life.alert.state = Tracked.replay start.state life.events
  unfolds : Unfolds start.state.status life.events life.alert.state.status
  named : ∃ id, life.alert.state.id = some id ∧ ∀ event ∈ life.alert.pending, event.alertId = id
  stored : ∃ stored, start.pending ++ life.events = stored ++ life.alert.pending ∧
    life.alert.version = start.version + stored.length

/-- An alert that has come to hand has a name, which its pending events carry, and at most one of
them. -/
theorem Begun.named (begun : Begun start) :
    (∃ id, start.state.id = some id ∧ ∀ event ∈ start.pending, event.alertId = id) ∧
      start.pending.length ≤ 1 := by
  cases begun with
  | @raised id input now _ accepted =>
    rw [raise, Faults.accept] at accepted
    split_ifs at accepted
    cases accepted
    refine ⟨⟨id, rfl, ?_⟩, by simp [Tracked.record, Tracked.new]⟩
    simp [Tracked.record, Tracked.new, raisedEvent, AlertEvent.alertId]
  | restored record version =>
    refine ⟨⟨record.id, ?_, by rintro _ ⟨⟩⟩, Nat.zero_le 1⟩
    rcases record with ⟨id, sensorId, kind, severity, message, value, threshold, status, raisedAt,
      _ | seenAt, seenBy, _ | closedAt, closedBy, notes⟩
    all_goals rfl

theorem Begun.lived (begun : Begun start) : Lived start ⟨start, []⟩ where
  state := rfl
  unfolds := .untouched
  named := begun.named.1
  stored := ⟨[], by simp, by simp⟩

/-- An act keeps what a life keeps: its event goes on with the state and the course, and a commit
moves events from those pending to those stored. -/
theorem Lived.after {life : Life} (lived : Lived start life) (act : Act) :
    Lived start (life.after act) := by
  obtain ⟨state, unfolds, ⟨id, owns, named⟩, stored, split, version⟩ := lived
  have step := lives_after life act
  generalize life.after act = after at step
  cases step with
  | refused _ => exact ⟨state, unfolds, ⟨id, owns, named⟩, stored, split, version⟩
  | @recorded act event records =>
    have carries : event.alertId = id ∧ (life.alert.record event).state.id = some id := by
      cases records <;> simp [AlertEvent.alertId, Tracked.record, EventSourced.apply,
        AlertState.apply, owns]
    refine ⟨?_, unfolds.record records, ⟨id, carries.2, ?_⟩, stored, ?_, version⟩
    · exact (congrArg (·.apply event) state).trans (replay_append_singleton _ _ event).symm
    · intro other member
      rcases List.mem_append.mp member with old | new
      · exact named other old
      · rw [List.mem_singleton.mp new]
        exact carries.1
    · simp [Tracked.record, ← List.append_assoc, split]
  | committed =>
    refine ⟨state, unfolds, ⟨id, owns, by rintro _ ⟨⟩⟩, stored ++ life.alert.pending, ?_, ?_⟩
    · simpa [Tracked.committed] using split
    · simp [Tracked.committed, Tracked.pendingVersion, version]
      omega

/-- Whatever is done with an alert that has come to hand, it keeps to its events. -/
theorem Begun.live (begun : Begun start) (acts : List Act) :
    Lived start (Alert.live start acts) := by
  induction acts using List.reverseRecOn with
  | nil => exact begun.lived
  | append_singleton acts act ih =>
    rw [live_append_singleton]
    exact ih.after act

/-- The versions that a life goes through are at most three above the one it began with. -/
theorem Lived.pendingVersion_le {life : Life} (lived : Lived start life)
    (short : start.pending.length ≤ 1) : life.alert.pendingVersion ≤ start.version + 3 := by
  obtain ⟨stored, split, version⟩ := lived.stored
  have events := lived.unfolds.length_le
  have count := congrArg List.length split
  rw [List.length_append, List.length_append] at count
  rw [Tracked.pendingVersion, version]
  omega

/-- Whether a life goes on with an act as it is allowed: a command that the alert allows is carried
out, and its event is applied and pending; a command that is refused leaves the alert as it was; a
commit moves the version on to the one that was pending, and leaves no events pending. -/
structure Heeds (life : Life) (act : Act) (next : Life) : Prop where
  allowed : act ≠ .commit →
    ((∃ alert, act.perform life.alert = .ok alert) ↔ ∃ event, Records life.alert act event)
  recorded : ∀ event, Records life.alert act event →
    next.alert = ⟨life.alert.state.apply event, life.alert.version,
      life.alert.pending ++ [event]⟩ ∧
    next.alert.pendingVersion = life.alert.pendingVersion + 1 ∧
    next.events = life.events ++ [event]
  refused : ∀ error left, act.perform life.alert = .error (error, left) →
    left = life.alert ∧ next = life
  committed : act = .commit →
    next.alert = ⟨life.alert.state, life.alert.pendingVersion, []⟩ ∧
    next.alert.pendingVersion = life.alert.pendingVersion ∧ next.events = life.events

theorem heeds_after (life : Life) (act : Act) : Heeds life act (life.after act) where
  allowed command := by
    constructor
    · rintro ⟨alert, carried⟩
      obtain ⟨event, records, -⟩ := (perform_eq_ok_iff command).mp carried
      exact ⟨event, records⟩
    · rintro ⟨event, records⟩
      exact ⟨_, (perform_eq_ok_iff command).mpr ⟨event, records, rfl⟩⟩
  recorded event records := by
    rw [Life.after_of_records records]
    exact ⟨rfl, Tracked.pendingVersion_record _ _, rfl⟩
  refused error left refusal := ⟨left_of_refusal refusal, Life.after_of_refusal refusal⟩
  committed commit := by
    subst commit
    rw [Life.after_commit]
    exact ⟨rfl, by simp [Tracked.committed, Tracked.pendingVersion], rfl⟩

/-- Whatever is done with an alert that was raised or restored, its state is what its events make of
the state it began with: an acknowledgement at most, and then a resolution at most. Each act does
what the alert allows, or nothing. -/
theorem live_follows_events (begun : Begun start) (acts : List Act) :
    Lived start (live start acts) ∧
      (live start acts).alert.pendingVersion ≤ start.version + 3 ∧
      ∀ act, Heeds (live start acts) act (live start (acts ++ [act])) := by
  have lived := begun.live acts
  refine ⟨lived, lived.pendingVersion_le begun.named.2, fun act => ?_⟩
  rw [live_append_singleton]
  exact heeds_after _ act

/-- The alert that a trough is low, as it is raised. -/
def lowTrough : NewAlert := ⟨⟨1⟩, .custom, .high, " Trough low ", none, none⟩

/-- The alert, raised and not yet stored. -/
def troughRaised : Alert := Tracked.new.record (raisedEvent ⟨1⟩ lowTrough .epoch)

/-- The trough is seen, and seen again too late; then it is filled. -/
def troughFilled : List Act :=
  [.commit, .acknowledge (some ⟨3⟩) .epoch ⟨0⟩, .acknowledge (some ⟨4⟩) .epoch ⟨0⟩,
    .resolve none (some " filled ") .epoch ⟨0⟩, .commit]

theorem begun_troughRaised : Begun troughRaised :=
  .raised (show raise ⟨1⟩ lowTrough .epoch = .ok troughRaised from rfl)

/-- The acknowledgement that is refused counts for nothing: three events make three versions. -/
theorem trough_follows_events :
    (live troughRaised troughFilled).alert.version = 3 ∧
      Lived troughRaised (live troughRaised troughFilled) ∧
      (live troughRaised troughFilled).alert.pendingVersion ≤ troughRaised.version + 3 ∧
      ∀ act, Heeds (live troughRaised troughFilled) act
        (live troughRaised (troughFilled ++ [act])) :=
  ⟨by decide, live_follows_events begun_troughRaised troughFilled⟩

end Fieldwatch.Alert
