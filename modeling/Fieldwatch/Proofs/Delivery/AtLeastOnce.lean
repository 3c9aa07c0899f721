import Mathlib.Data.List.Nodup
import Fieldwatch.Proofs.Delivery.Passes

/-!
# Delivery at least once

Whatever commits, passes, crashes and prunes do, in any order, nothing is handed to the publisher
that was not staged, and no entry is written off before the publisher took it. What ties the status
of a row to the past is the log: a row is published, and a row is pruned, only after an answer in
the log that its envelope was taken.
-/
namespace Fieldwatch.Delivery

/-! ## What the log warrants -/

/-- Whether a row is of an entry, whatever became of its delivery. -/
def IsRowOf (entry row : OutboxEntry) : Prop :=
  row.id = entry.id ∧ row.envelope = entry.envelope

/-- Whether a row is of an entry that was staged. -/
def Staged (log : List Happening) (row : OutboxEntry) : Prop :=
  ∃ entry, .staged entry ∈ log ∧ IsRowOf entry row

/-- Whether the publisher took an envelope. -/
def Taken (log : List Happening) (envelope : Envelope) : Prop :=
  .answered envelope (.ok ()) ∈ log

/-- Whether what happened before allows something to happen: an envelope is handed over after its
entry was staged, answered for after it was handed over, and pruned after it was taken; a commit
has succeeded once the event of each of its envelopes is staged. -/
def Happening.Warranted (before : List Happening) : Happening → Prop
  | staged _ => True
  | committed envelopes => ∀ envelope ∈ envelopes, ∃ entry, .staged entry ∈ before ∧
    entry.envelope.eventId = envelope.eventId
  | handed envelope => ∃ entry, .staged entry ∈ before ∧ entry.envelope = envelope
  | answered envelope _ => .handed envelope ∈ before
  | pruned row => Taken before row.envelope

/-- Whether everything in a log was warranted when it happened. -/
def Orderly (log : List Happening) : Prop :=
  ∀ before happening later, log = before ++ happening :: later → happening.Warranted before

/-- Whether what a pass works on was staged, and what it is to write down happened. -/
def Pass.Sound (log : List Happening) : Pass → Prop
  | ready entries => ∀ entry ∈ entries, Staged log entry
  | waiting entry rest =>
    Staged log entry ∧ .handed entry.envelope ∈ log ∧ ∀ other ∈ rest, Staged log other
  | settling entry result rest =>
    Staged log entry ∧ (result = .ok () → Taken log entry.envelope) ∧
      ∀ other ∈ rest, Staged log other

section Log

variable {log more : List Happening}

theorem Staged.mono {row : OutboxEntry} (staged : Staged log row) (grown : log ⊆ more) :
    Staged more row := by
  obtain ⟨entry, member, same⟩ := staged
  exact ⟨entry, grown member, same⟩

theorem Happening.Warranted.mono {happening : Happening} (warranted : happening.Warranted log)
    (grown : log ⊆ more) : happening.Warranted more := by
  cases happening with
  | staged entry => trivial
  | committed envelopes =>
    intro envelope member
    obtain ⟨entry, staged, same⟩ := warranted envelope member
    exact ⟨entry, grown staged, same⟩
  | handed envelope =>
    obtain ⟨entry, member, same⟩ := warranted
    exact ⟨entry, grown member, same⟩
  | answered envelope result => exact grown warranted
  | pruned row => exact grown warranted

theorem Pass.Sound.mono {pass : Pass} (sound : pass.Sound log) (grown : log ⊆ more) :
    pass.Sound more := by
  cases pass with
  | ready entries => exact fun entry member => (sound entry member).mono grown
  | waiting entry rest =>
    obtain ⟨staged, handed, others⟩ := sound
    exact ⟨staged.mono grown, grown handed, fun other member => (others other member).mono grown⟩
  | settling entry result rest =>
    obtain ⟨staged, taken, others⟩ := sound
    exact ⟨staged.mono grown, fun answered => grown (taken answered),
      fun other member => (others other member).mono grown⟩

/-- A log stays orderly when what is added to it is warranted by it. -/
theorem Orderly.append (orderly : Orderly log)
    (warranted : ∀ happening ∈ more, happening.Warranted log) : Orderly (log ++ more) := by
  intro before happening later split
  rcases List.append_eq_append_iff.mp split with ⟨beyond, grown, rest⟩ | ⟨cut, whole, rest⟩
  · have added : happening ∈ more := by
      rw [rest]
      exact List.mem_append_right _ List.mem_cons_self
    rw [grown]
    exact (warranted happening added).mono (List.subset_append_left _ _)
  · rcases cut with _ | ⟨head, tail⟩
    · have added : happening ∈ more := by
        rw [← List.nil_append more, ← rest]
        exact List.mem_cons_self
      rw [List.append_nil] at whole
      exact whole ▸ warranted happening added
    · obtain ⟨same, -⟩ := List.cons.inj rest
      exact orderly before happening tail (by rw [whole, same])

def Happening.added? : Happening → Option OutboxEntry
  | staged entry => some entry
  | _ => none

/-- The identifiers of the entries that were staged, in their order. -/
def stagedIds (log : List Happening) : List (BitVec 128) :=
  (log.filterMap Happening.added?).map fun entry => entry.id.value

theorem mem_filterMap_added? {entry : OutboxEntry} (staged : .staged entry ∈ log) :
    entry ∈ log.filterMap Happening.added? :=
  List.mem_filterMap.mpr ⟨.staged entry, staged, rfl⟩

/-- Where no identifier was staged twice, an entry is known by its identifier. -/
theorem staged_inj {entry other : OutboxEntry} (distinct : (stagedIds log).Nodup)
    (staged : .staged entry ∈ log) (stagedToo : .staged other ∈ log)
    (same : entry.id = other.id) : entry = other :=
  List.inj_on_of_nodup_map distinct (mem_filterMap_added? staged) (mem_filterMap_added? stagedToo)
    (congrArg Id.value same)

theorem stagedIds_append_pruned (rows : List OutboxEntry) :
    stagedIds (log ++ rows.map .pruned) = stagedIds log := by
  have none : (rows.map Happening.pruned).filterMap Happening.added? = [] := by
    rw [List.filterMap_map]
    exact List.filterMap_eq_nil_iff.mpr fun _ _ => rfl
  rw [stagedIds, List.filterMap_append, none, List.append_nil]
  rfl

/-- Rows that are gone although the others were spared are published. -/
theorem published_of_mem_gone {before after : List OutboxEntry} {row : OutboxEntry}
    (spared : ∀ row ∈ before, row.status ≠ .published → row ∈ after)
    (lost : row ∈ gone before after) :
    row ∈ before ∧ row.status = .published := by
  obtain ⟨member, absent⟩ := List.mem_filter.mp lost
  refine ⟨member, ?_⟩
  by_contra unpublished
  have left := List.all_eq_true.mp absent row (spared row member unpublished)
  simp at left

/-- A row is gone, or some row of its identifier is left. -/
theorem mem_gone_or_kept {before : List OutboxEntry} (after : List OutboxEntry)
    {row : OutboxEntry} (there : row ∈ before) :
    row ∈ gone before after ∨ ∃ other ∈ after, other.id = row.id := by
  by_cases left : ∃ other ∈ after, other.id = row.id
  · exact .inr left
  · refine .inl (List.mem_filter.mpr ⟨there, List.all_eq_true.mpr fun other member => ?_⟩)
    simpa using fun here => left ⟨other, member, here⟩

/-- Rows of staged entries with one identifier have one envelope. -/
theorem Staged.envelope_inj {row other : OutboxEntry} (distinct : (stagedIds log).Nodup)
    (staged : Staged log row) (stagedToo : Staged log other) (same : row.id = other.id) :
    row.envelope = other.envelope := by
  obtain ⟨entry, member, sameId, carried⟩ := staged
  obtain ⟨another, memberToo, sameIdToo, carriedToo⟩ := stagedToo
  have one : entry = another :=
    staged_inj distinct member memberToo (sameId.symm.trans (same.trans sameIdToo))
  rw [carried, carriedToo, one]

end Log

/-! ## The invariant -/

/-- What holds at any point, where identifiers were drawn from `low` on: the log is orderly, a row
is of a staged entry and published only if its envelope was taken, an entry that was staged has its
row unless that was pruned, and the passes are sound. -/
structure Sound (low : Nat) (state : State) : Prop where
  orderly : Orderly state.log
  reached : low ≤ state.world.ids.used
  drawn : DrawnInOrder state.world.ids.draw low state.world.ids.used (stagedIds state.log)
  rows : ∀ row ∈ state.world.store.outbox, Staged state.log row
  published : ∀ row ∈ state.world.store.outbox, row.status = .published →
    Taken state.log row.envelope
  kept : ∀ entry, .staged entry ∈ state.log →
    (∃ row ∈ state.world.store.outbox, IsRowOf entry row) ∨
      ∃ row, .pruned row ∈ state.log ∧ IsRowOf entry row
  remembered : Tables.Remembers state.world.store.outbox state.world.store.eventIds
  passes : ∀ pass ∈ state.passes, pass.Sound state.log

namespace Sound

variable {low : Nat} {world after : World Tables} {passes before later : List Pass}
  {log : List Happening} {old new : Pass}

/-- A world that drew on and holds what it held is as good. -/
theorem of_holdsAs (sound : Sound low ⟨world, passes, log⟩) (follows : world.Follows after)
    (holds : after.store.HoldsAs world.store) : Sound low ⟨after, passes, log⟩ where
  orderly := sound.orderly
  reached := Nat.le_trans sound.reached follows.used
  drawn := by
    rw [follows.draw]
    exact sound.drawn.widen (Nat.le_refl _) follows.used
  rows := by rw [holds.outbox]; exact sound.rows
  published := by rw [holds.outbox]; exact sound.published
  kept := by rw [holds.outbox]; exact sound.kept
  remembered := by rw [holds.outbox, holds.eventIds]; exact sound.remembered
  passes := sound.passes

/-- One pass may take a step of its own. -/
theorem replace (sound : Sound low ⟨world, before ++ old :: later, log⟩) (next : new.Sound log) :
    Sound low ⟨world, before ++ new :: later, log⟩ :=
  { sound with
    passes := by
      intro pass member
      rcases List.mem_append.mp member with early | late
      · exact sound.passes pass (List.mem_append_left _ early)
      · rcases List.mem_cons.mp late with rfl | last
        · exact next
        · exact sound.passes pass (List.mem_append_right _ (List.mem_cons_of_mem _ last)) }

/-- A pass may stop. -/
theorem remove (sound : Sound low ⟨world, before ++ old :: later, log⟩) :
    Sound low ⟨world, before ++ later, log⟩ :=
  { sound with
    passes := by
      intro pass member
      rcases List.mem_append.mp member with early | late
      · exact sound.passes pass (List.mem_append_left _ early)
      · exact sound.passes pass (List.mem_append_right _ (List.mem_cons_of_mem _ late)) }

/-- Something warranted may happen that stages and prunes nothing. -/
theorem happen (sound : Sound low ⟨world, passes, log⟩) {happening : Happening}
    (warranted : happening.Warranted log) (stages : happening.added? = none) :
    Sound low ⟨world, passes, log ++ [happening]⟩ := by
  have grown : log ⊆ log ++ [happening] := List.subset_append_left _ _
  have sameIds : stagedIds (log ++ [happening]) = stagedIds log := by
    simp [stagedIds, List.filterMap_append, stages]
  constructor
  · refine sound.orderly.append ?_
    intro other member
    obtain rfl := List.mem_singleton.mp member
    exact warranted
  · exact sound.reached
  · change DrawnInOrder _ _ _ (stagedIds (log ++ [happening]))
    rw [sameIds]
    exact sound.drawn
  · exact fun row member => (sound.rows row member).mono grown
  · exact fun row member published => grown (sound.published row member published)
  · intro entry staged
    rcases List.mem_append.mp staged with old | new
    · rcases sound.kept entry old with there | ⟨row, pruned, same⟩
      · exact .inl there
      · exact .inr ⟨row, grown pruned, same⟩
    · obtain rfl := List.mem_singleton.mp new
      cases stages
  · exact sound.remembered
  · exact fun pass member => (sound.passes pass member).mono grown

/-- A commit may append pending entries under identifiers of their own. -/
theorem append (sound : Sound low ⟨world, passes, log⟩) (follows : world.Follows after)
    {added : List OutboxEntry} (left : after.store.outbox = world.store.outbox ++ added)
    (pending : ∀ entry ∈ added, entry.status = .pending)
    (drawn : DrawnInOrder world.ids.draw world.ids.used after.ids.used
      (added.map fun entry => entry.id.value))
    (remembered : Tables.Remembers after.store.outbox after.store.eventIds) :
    Sound low ⟨after, passes, log ++ added.map .staged⟩ := by
  have grown : log ⊆ log ++ added.map .staged := List.subset_append_left _ _
  have new {entry : OutboxEntry} (member : entry ∈ added) :
      Happening.staged entry ∈ log ++ added.map .staged :=
    List.mem_append_right _ (List.mem_map_of_mem member)
  have ids : stagedIds (log ++ added.map .staged) =
      stagedIds log ++ added.map fun entry => entry.id.value := by
    have each : (added.map Happening.staged).filterMap Happening.added? = added := by
      rw [List.filterMap_map]
      exact List.filterMap_some
    rw [stagedIds, List.filterMap_append, each, List.map_append]
    rfl
  constructor
  case orderly =>
    refine sound.orderly.append ?_
    intro happening member
    obtain ⟨entry, -, rfl⟩ := List.mem_map.mp member
    trivial
  case reached => exact Nat.le_trans sound.reached follows.used
  case drawn =>
    change DrawnInOrder _ _ _ (stagedIds (log ++ added.map .staged))
    rw [ids, follows.draw]
    exact sound.drawn.append drawn sound.reached follows.used
  case rows =>
    intro row member
    rw [left] at member
    rcases List.mem_append.mp member with old | fresh
    · exact (sound.rows row old).mono grown
    · exact ⟨row, new fresh, rfl, rfl⟩
  case published =>
    intro row member published
    rw [left] at member
    rcases List.mem_append.mp member with old | fresh
    · exact grown (sound.published row old published)
    · rw [pending row fresh] at published
      cases published
  case kept =>
    intro entry staged
    rw [left]
    rcases List.mem_append.mp staged with old | fresh
    · rcases sound.kept entry old with ⟨row, member, same⟩ | ⟨row, pruned, same⟩
      · exact .inl ⟨row, List.mem_append_left _ member, same⟩
      · exact .inr ⟨row, grown pruned, same⟩
    · obtain ⟨other, member, same⟩ := List.mem_map.mp fresh
      cases same
      exact .inl ⟨entry, List.mem_append_right _ member, rfl, rfl⟩
  case remembered => exact remembered
  case passes => exact fun pass member => (sound.passes pass member).mono grown

/-- A mark may change the delivery of the row of a staged entry, and that to published after its
envelope was taken. -/
theorem mark (sound : Sound low ⟨world, passes, log⟩) (distinct : (stagedIds log).Nodup)
    (follows : world.Follows after) {entry : OutboxEntry} {taken : Prop}
    (marked : Tables.Marked entry.id taken world.store.outbox after.store.outbox)
    (sameIds : after.store.eventIds = world.store.eventIds) (staged : Staged log entry)
    (warranted : taken → Taken log entry.envelope) :
    Sound low ⟨after, passes, log⟩ where
  orderly := sound.orderly
  reached := Nat.le_trans sound.reached follows.used
  drawn := by
    rw [follows.draw]
    exact sound.drawn.widen (Nat.le_refl _) follows.used
  rows := by
    intro row member
    rcases marked.old row member with there | ⟨old, there, named, sameId, carried, -⟩
    · exact sound.rows row there
    · obtain ⟨origin, member, same, carries⟩ := sound.rows old there
      exact ⟨origin, member, sameId.trans (named.symm.trans same), carried.trans carries⟩
  published := by
    intro row member published
    rcases marked.old row member with there | ⟨old, there, named, -, carried, answered⟩
    · exact sound.published row there published
    · -- Two rows of one identifier have one envelope, so the answer was for this one.
      rw [carried, (sound.rows old there).envelope_inj distinct staged named]
      exact warranted (answered published)
  kept := by
    intro entry member
    rcases sound.kept entry member with ⟨row, there, same, carried⟩ | pruned
    · obtain ⟨left, after, sameId, carries⟩ := marked.kept row there
      exact .inl ⟨left, after, sameId.trans same, carries.trans carried⟩
    · exact .inr pruned
  remembered := by
    rw [sameIds]
    exact marked.remembers sound.remembered
  passes := sound.passes

/-- A prune may drop rows that are published. -/
theorem prune (sound : Sound low ⟨world, passes, log⟩) (distinct : (stagedIds log).Nodup)
    (follows : world.Follows after)
    (old : ∀ row ∈ after.store.outbox, row ∈ world.store.outbox)
    (spared : ∀ row ∈ world.store.outbox, row.status ≠ .published → row ∈ after.store.outbox)
    (remembered : Tables.Remembers after.store.outbox after.store.eventIds) :
    Sound low
      ⟨after, passes, log ++ (gone world.store.outbox after.store.outbox).map .pruned⟩ := by
  have grown : log ⊆ log ++ (gone world.store.outbox after.store.outbox).map .pruned :=
    List.subset_append_left _ _
  constructor
  case orderly =>
    refine sound.orderly.append ?_
    intro happening member
    obtain ⟨row, lost, rfl⟩ := List.mem_map.mp member
    obtain ⟨there, published⟩ := published_of_mem_gone spared lost
    exact sound.published row there published
  case reached => exact Nat.le_trans sound.reached follows.used
  case drawn =>
    change DrawnInOrder _ _ _ (stagedIds (log ++ _))
    rw [stagedIds_append_pruned, follows.draw]
    exact sound.drawn.widen (Nat.le_refl _) follows.used
  case rows => exact fun row member => (sound.rows row (old row member)).mono grown
  case published =>
    exact fun row member published => grown (sound.published row (old row member) published)
  case kept =>
    intro entry member
    have staged : .staged entry ∈ log := by
      rcases List.mem_append.mp member with before | pruned
      · exact before
      · obtain ⟨_, -, same⟩ := List.mem_map.mp pruned
        cases same
    rcases sound.kept entry staged with ⟨row, there, same⟩ | ⟨row, pruned, same⟩
    · rcases mem_gone_or_kept after.store.outbox there with lost | ⟨other, left, sameId⟩
      · exact .inr ⟨row, List.mem_append_right _ (List.mem_map_of_mem lost), same⟩
      · -- The row of the identifier that is left carries the same envelope.
        refine .inl ⟨other, left, sameId.trans same.1, ?_⟩
        rw [(sound.rows other (old other left)).envelope_inj distinct (sound.rows row there)
          sameId]
        exact same.2
    · exact .inr ⟨row, grown pruned, same⟩
  case remembered => exact remembered
  case passes => exact fun pass member => (sound.passes pass member).mono grown

end Sound

/-! ## Runs -/

/-- The supply does not give out an identifier twice. -/
def Distinct (low : Nat) (world : World Tables) : Prop :=
  ∀ i j, low ≤ i → i < j → j < world.ids.used → world.ids.draw i ≠ world.ids.draw j

theorem Distinct.before {low : Nat} {world after : World Tables} (distinct : Distinct low after)
    (follows : world.Follows after) : Distinct low world := by
  intro i j above before upTo
  rw [← follows.draw]
  exact distinct i j above before (Nat.lt_of_lt_of_le upTo follows.used)

/-- Whatever happens draws on the supply of identifiers at most. -/
theorem OutboxStep.follows {state next : State} (step : OutboxStep state next) :
    state.world.Follows next.world := by
  cases step with
  | pause clock drawn failing => exact World.pause_follows _ clock drawn failing
  | commit bare ran => exact (commitWith_eq_ok bare ran).1
  | commitFails ran => exact (commitWith_eq_error ran).1
  | fetch ran =>
    cases ran
    exact .refl _
  | hand => exact .refl _
  | answer result => exact .refl _
  | settle ran => exact (settle_marks ran).1
  | abort ran => exact (settle_marks ran).1
  | stop => exact .refl _
  | prune ran => exact (prune_spares ran).1

/-- Whatever happens leaves things sound. -/
theorem Sound.step {low : Nat} {state next : State} (sound : Sound low state)
    (step : OutboxStep state next) (distinct : Distinct low state.world) : Sound low next := by
  have apart : (stagedIds state.log).Nodup := sound.drawn.nodup distinct
  have follows := step.follows
  cases step with
  | pause clock drawn failing =>
    exact sound.of_holdsAs follows (World.pause_holdsAs _ clock drawn failing)
  | commit bare ran =>
    obtain ⟨-, added, left, pending, drawn, remembers⟩ := commitWith_eq_ok bare ran
    obtain ⟨remembered, known⟩ := remembers sound.remembered
    rw [left, appended, List.drop_left]
    have added := sound.append follows left pending drawn remembered
    refine added.happen ?_ rfl
    intro envelope member
    obtain ⟨row, there, same⟩ := remembered _ (known envelope member)
    obtain ⟨entry, staged, -, carried⟩ := added.rows row there
    exact ⟨entry, staged, (congrArg Envelope.eventId carried).symm.trans same⟩
  | commitFails ran => exact sound.of_holdsAs follows (commitWith_eq_error ran).2
  | @fetch world after passes log entries relay batch ran =>
    cases ran
    refine { sound with passes := ?_ }
    intro pass member
    rcases List.mem_append.mp member with old | new
    · exact sound.passes pass old
    · obtain rfl := List.mem_singleton.mp new
      exact fun entry fetched => sound.rows entry (Tables.mem_of_mem_unpublished fetched)
  | @hand world before entry rest later log =>
    have ready := sound.passes (.ready (entry :: rest))
      (List.mem_append_right _ List.mem_cons_self)
    obtain ⟨origin, staged, same⟩ := ready entry List.mem_cons_self
    have handed : Sound low ⟨world, before ++ .ready (entry :: rest) :: later,
        log ++ [.handed entry.envelope]⟩ :=
      sound.happen ⟨origin, staged, same.2.symm⟩ rfl
    refine handed.replace ⟨⟨origin, List.mem_append_left _ staged, same⟩, ?_, ?_⟩
    · exact List.mem_append_right _ (List.mem_singleton_self _)
    · exact fun other member =>
        (ready other (List.mem_cons_of_mem _ member)).mono (List.subset_append_left _ _)
  | @answer world before entry rest later log result =>
    obtain ⟨staged, handed, others⟩ := sound.passes (.waiting entry rest)
      (List.mem_append_right _ List.mem_cons_self)
    have answered : Sound low ⟨world, before ++ .waiting entry rest :: later,
        log ++ [.answered entry.envelope result]⟩ := sound.happen handed rfl
    have grown : log ⊆ log ++ [.answered entry.envelope result] := List.subset_append_left _ _
    refine answered.replace
      ⟨staged.mono grown, ?_, fun other member => (others other member).mono grown⟩
    rintro rfl
    exact List.mem_append_right _ (List.mem_singleton_self _)
  | settle ran =>
    obtain ⟨staged, taken, others⟩ := sound.passes (.settling _ _ _)
      (List.mem_append_right _ List.mem_cons_self)
    obtain ⟨-, marked, sameIds⟩ := settle_marks ran
    exact (sound.mark apart follows marked sameIds staged taken).replace others
  | abort ran =>
    obtain ⟨staged, taken, -⟩ := sound.passes (.settling _ _ _)
      (List.mem_append_right _ List.mem_cons_self)
    obtain ⟨-, marked, sameIds⟩ := settle_marks ran
    exact (sound.mark apart follows marked sameIds staged taken).remove
  | stop => exact sound.remove
  | prune ran =>
    obtain ⟨-, old, spared, remembers⟩ := prune_spares ran
    exact sound.prune apart follows old spared (remembers sound.remembered)

/-- A run from a store with an empty outbox stays sound, as long as no identifier is given out
twice. -/
theorem sound_of_steps {world : World Tables} {state : State} (empty : world.store.outbox = [])
    (unknown : world.store.eventIds = []) (steps : OutboxSteps ⟨world, [], []⟩ state)
    (distinct : Distinct world.ids.used state.world) :
    Sound world.ids.used state := by
  induction steps with
  | refl =>
    refine ⟨?_, Nat.le_refl _, .nil _ _ _, ?_, ?_, by rintro _ ⟨⟩, ?_, by rintro _ ⟨⟩⟩
    · intro before happening later split
      exact absurd split.symm (List.append_ne_nil_of_right_ne_nil _ (List.cons_ne_nil _ _))
    · rw [empty]
      rintro _ ⟨⟩
    · rw [empty]
      rintro _ ⟨⟩
    · rw [unknown]
      rintro _ ⟨⟩
  | tail earlier step ih =>
    have before := distinct.before step.follows
    exact (ih before).step step before

/-- Nothing is lost and nothing is made up. Over any run of commits, passes, crashes and prunes: an
envelope is handed over after a commit staged its entry; a row is published, or pruned, after its
envelope was taken; every staged entry has its row, with its envelope, unless that was pruned; and
a commit that succeeds leaves the event of each of its envelopes staged. -/
theorem nothing_lost_nothing_invented {world : World Tables} {state : State}
    (empty : world.store.outbox = []) (unknown : world.store.eventIds = [])
    (steps : OutboxSteps ⟨world, [], []⟩ state) (distinct : Distinct world.ids.used state.world) :
    (∀ before envelope later, state.log = before ++ .handed envelope :: later →
      ∃ entry, .staged entry ∈ before ∧ entry.envelope = envelope) ∧
    (∀ row ∈ state.world.store.outbox, row.status = .published →
      .answered row.envelope (.ok ()) ∈ state.log) ∧
    (∀ before row later, state.log = before ++ .pruned row :: later →
      .answered row.envelope (.ok ()) ∈ before) ∧
    (∀ entry, .staged entry ∈ state.log →
      (∃ row ∈ state.world.store.outbox, row.id = entry.id ∧ row.envelope = entry.envelope) ∨
        ∃ row, .pruned row ∈ state.log ∧ row.id = entry.id ∧ row.envelope = entry.envelope) ∧
    (∀ before envelopes later, state.log = before ++ .committed envelopes :: later →
      ∀ envelope ∈ envelopes, ∃ entry, .staged entry ∈ before ∧
        entry.envelope.eventId = envelope.eventId) := by
  have sound := sound_of_steps empty unknown steps distinct
  refine ⟨?_, sound.published, ?_, sound.kept, ?_⟩
  · exact fun before envelope later split => sound.orderly before (.handed envelope) later split
  · exact fun before row later split => sound.orderly before (.pruned row) later split
  · exact fun before envelopes later split =>
      sound.orderly before (.committed envelopes) later split

def bareStore : World Tables :=
  ⟨.still .epoch, ⟨fun count => BitVec.ofNat 128 (count + 1), 0⟩, .empty, {}⟩

def news : Envelope := ⟨⟨5⟩, "SensorIngested", 1, ⟨6⟩, ⟨9⟩, "IngestReading", .epoch, .null⟩

/-- The entry of that event. -/
def newsEntry : OutboxEntry := .new ⟨1⟩ news .epoch

/-- The store with that entry. -/
def newsStore : World Tables := (commitWith .empty [news] bareStore).2

/-- The store two hours after a broker took the event. -/
def spreadStore : World Tables :=
  (Relay.settle newsEntry (.ok ()) newsStore).2.pause
    (.still ⟨7200, 1, by decide, by decide, by decide⟩) 3 false

/-- A relay that keeps no published entry. -/
def forgetfulRelay : Relay := ⟨5, some 0⟩

/-- What is left when a pass crashed after the broker took its envelope, and another took the entry
up again, wrote that down and let it be pruned. -/
def afterCrash : State where
  world := (forgetfulRelay.prune spreadStore).2
  passes := [.ready []]
  log := [.staged newsEntry, .committed [news], .handed news, .answered news (.ok ()),
    .handed news, .answered news (.ok ()), .pruned (newsEntry.markPublished .epoch)]

theorem steps_afterCrash : OutboxSteps ⟨bareStore, [], []⟩ afterCrash := by
  have committed : OutboxStep ⟨bareStore, [], []⟩
      ⟨newsStore, [], [.staged newsEntry, .committed [news]]⟩ :=
    @OutboxStep.commit bareStore newsStore [] [] .empty [news] ⟨0, 1⟩ rfl rfl
  have fetched (log : List Happening) : OutboxStep ⟨newsStore, [], log⟩
      ⟨newsStore, [.ready [newsEntry]], log⟩ := by
    refine @OutboxStep.fetch newsStore newsStore [] log [newsEntry] forgetfulRelay 10 ?_
    change ((.ok (newsStore.store.unpublished 10 5) : Except StoreError _), newsStore) = _
    have sorted : newsStore.store.unpublished 10 5 = [newsEntry] := by
      change (([newsEntry] : List OutboxEntry).mergeSort _).take 10 = _
      rw [List.mergeSort_singleton]
      rfl
    rw [sorted]
  have handed (log : List Happening) : OutboxSteps ⟨newsStore, [], log⟩
      ⟨newsStore, [.settling newsEntry (.ok ()) []],
        log ++ [.handed news] ++ [.answered news (.ok ())]⟩ :=
    .tail (.tail (.single (fetched log)) (@OutboxStep.hand newsStore [] newsEntry [] [] log))
      (@OutboxStep.answer newsStore [] newsEntry [] [] (log ++ [.handed news]) (.ok ()))
  have crashed (log : List Happening) : OutboxStep
      ⟨newsStore, [.settling newsEntry (.ok ()) []], log⟩ ⟨newsStore, [], log⟩ :=
    @OutboxStep.stop newsStore [] _ [] log
  have settled (log : List Happening) : OutboxStep
      ⟨newsStore, [.settling newsEntry (.ok ()) []], log⟩
      ⟨(Relay.settle newsEntry (.ok ()) newsStore).2, [.ready []], log⟩ :=
    @OutboxStep.settle newsStore _ [] newsEntry (.ok ()) [] [] log rfl
  have waited (log : List Happening) : OutboxStep
      ⟨(Relay.settle newsEntry (.ok ()) newsStore).2, [.ready []], log⟩
      ⟨spreadStore, [.ready []], log⟩ := .pause _ _ _
  have pruned (log : List Happening) : OutboxStep ⟨spreadStore, [.ready []], log⟩
      ⟨(forgetfulRelay.prune spreadStore).2, [.ready []],
        log ++ [.pruned (newsEntry.markPublished .epoch)]⟩ :=
    @OutboxStep.prune spreadStore _ [.ready []] log 1 forgetfulRelay rfl
  have first := ((Relation.ReflTransGen.single committed).trans (handed _)).tail (crashed _)
  have second := (first.trans (handed _)).tail (settled _)
  exact (second.tail (waited _)).tail (pruned _)

/-- The event was published twice, and neither lost nor made up. -/
theorem nothing_lost_afterCrash :
    (∀ before envelope later, afterCrash.log = before ++ .handed envelope :: later →
      ∃ entry, .staged entry ∈ before ∧ entry.envelope = envelope) ∧
    (∀ row ∈ afterCrash.world.store.outbox, row.status = .published →
      .answered row.envelope (.ok ()) ∈ afterCrash.log) ∧
    (∀ before row later, afterCrash.log = before ++ .pruned row :: later →
      .answered row.envelope (.ok ()) ∈ before) ∧
    (∀ entry, .staged entry ∈ afterCrash.log →
      (∃ row ∈ afterCrash.world.store.outbox,
          row.id = entry.id ∧ row.envelope = entry.envelope) ∨
        ∃ row, .pruned row ∈ afterCrash.log ∧ row.id = entry.id ∧
          row.envelope = entry.envelope) ∧
    (∀ before envelopes later, afterCrash.log = before ++ .committed envelopes :: later →
      ∀ envelope ∈ envelopes, ∃ entry, .staged entry ∈ before ∧
        entry.envelope.eventId = envelope.eventId) := by
  have distinct : Distinct bareStore.ids.used afterCrash.world := by
    rintro i j - before upTo same
    have used : afterCrash.world.ids.used = 4 := rfl
    have same : (i + 1) % 2 ^ 128 = (j + 1) % 2 ^ 128 := congrArg BitVec.toNat same
    omega
  exact nothing_lost_nothing_invented rfl rfl steps_afterCrash distinct

end Fieldwatch.Delivery
