import Fieldwatch.Proofs.Alert.Crossings
import Fieldwatch.Proofs.Alert.Keeping
import Fieldwatch.Proofs.Ingest.Batches

/-!
# What rules cost a reading

A reading is refused for the rules for one reason alone, when their thresholds are finite: an alert
that they ask for has a message of more than 500 characters. Otherwise it is stored as it is without
rules, and one alert beside it for each limit that is heeded.
-/
namespace Fieldwatch.Ingest

variable {input : NewReading} {context : OperationContext}

/-! ## Why a reading is refused for its alerts -/

theorem faultOf?_of_lengths {asked : List NewAlert}
    (judged : ∀ new ∈ asked, Alert.faults new =
      if new.message.length ≤ 500 then .none else .tooLong) :
    faultOf? asked = if ∀ new ∈ asked, new.message.length ≤ 500 then none
      else some (.validation .tooLong) := by
  induction asked with
  | nil => rfl
  | cons new rest ih =>
    obtain ⟨here, others⟩ := List.forall_mem_cons.mp judged
    rw [faultOf?, List.findSome?_cons, here]
    by_cases short : new.message.length ≤ 500
    · have clear : Faults.none.isEmpty = true := rfl
      rw [if_pos short, if_pos clear]
      refine (ih others).trans ?_
      simp [short]
    · have blamed : ¬ Faults.tooLong.isEmpty = true := by decide
      rw [if_neg short, if_neg blamed]
      simp [short]

/-- Rules take away none of the reasons for which a reading is refused without them, and add one. -/
theorem refusal?_of_finite {rules : AlertRules} (finite : rules.Finite) (tables : Tables)
    (moment : Instant) (input : NewReading) :
    refusal? (some rules) tables moment input =
      (refusal? none tables moment input).or
        (if ∀ new ∈ rules.evaluate input.sensorId input.metrics, new.message.length ≤ 500 then none
          else some (.validation .tooLong)) := by
  unfold refusal?
  by_cases sound : (Reading.faults input moment).isEmpty = true
  · by_cases active : isActive tables input.sensorId = true
    · obtain ⟨named, ranges⟩ := Reading.sound_of_isEmpty sound
      have measured := Metrics.finite_of_ranges ranges
      rw [if_pos sound, if_pos active, if_pos sound, if_pos active]
      exact faultOf?_of_lengths fun new member =>
        AlertRules.faults_of_evaluate finite measured member named
    · rw [if_pos sound, if_neg active, if_pos sound, if_neg active]
      rfl
  · rw [if_neg sound, if_neg sound]
    rfl

/-! ## What a reading leaves -/

section Healthy

variable {rules : Option AlertRules} {world : World Tables}
  (unset : world.store.failNextCommit = false)
  (unseen : world.store.Unseen world.ids.draw world.ids.used
    (ingest rules input context world).2.ids.used)
include unset unseen

/-- A reading that is not refused is stored with its alerts, as they were asked for. -/
theorem ingest_of_accepted
    (accepted : refusal? rules world.store world.now.time input = none) :
    ∃ ingested part, (ingest rules input context world).1 = .ok ingested ∧
      (ingest rules input context world).2.store = world.store.grown part ∧
      part.readings = [arrived world input] ∧
      List.Forall₂ RaisedFrom (asked rules input) part.alerts := by
  obtain ⟨part, ingested, later, drawn, readings, -, raised, staged, committed⟩ :=
    turn_of_accepted accepted context
  have looked : OnlyLooked world later := OnlyLooked.of_looks (stageOne_looks _ _ _ _ _)
    (staged [input.sensorId] (List.mem_singleton.mpr rfl) .empty)
  rw [committed, (concluding_apply part 1 ingested later).2.2, ← looked.store_eq] at unseen
  rw [← looked.store_eq] at unset
  obtain ⟨entries, concluded⟩ := concluding_of_drawn unset unseen drawn 1 ingested
  rw [committed, concluded, looked.store_eq]
  exact ⟨ingested, part, rfl, rfl, readings, raised⟩

/-- Where the store takes what is committed, a reading is accepted unless it is refused. -/
theorem ingest_accepts_iff :
    (∃ ingested, (ingest rules input context world).1 = .ok ingested) ↔
      refusal? rules world.store world.now.time input = none := by
  constructor
  · rintro ⟨ingested, answered⟩
    cases judged : refusal? rules world.store world.now.time input with
    | none => rfl
    | some error =>
      obtain ⟨later, refused, -⟩ := turn_of_refused judged context
      rw [refused] at answered
      cases answered
  · intro accepted
    obtain ⟨ingested, -, answered, -⟩ := ingest_of_accepted unset unseen accepted
    exact ⟨ingested, answered⟩

end Healthy

/-- Whether a row is of the alert about a limit, as it is raised for the value beyond it. -/
def IsAbout (rules : AlertRules) (input : NewReading) (limit : Limit) (row : StoredAlert) : Prop :=
  ∃ x ∈ limit.value input.metrics, limit.Beyond rules x ∧
    ∃ id now, row.record = Alert.raisedRecord id (limit.alert rules input.sensorId x) now

theorem IsAbout.of_raised {rules : AlertRules} {limit : Limit} {new : NewAlert} {write : AlertWrite}
    (asks : limit.Asks rules input.metrics input.sensorId new) (raised : RaisedFrom new write) :
    IsAbout rules input limit ⟨write.record, write.next⟩ := by
  obtain ⟨x, here, beyond, rfl⟩ := asks
  obtain ⟨id, now, alert, raised, recorded⟩ := raised
  refine ⟨x, here, beyond, id, now, ?_⟩
  have kept := (Alert.judges_raise id _ now).made alert raised
  exact Option.some_inj.mp (recorded.symm.trans kept.record)

/-- Alerts that were asked for each limit are stored as rows about each. -/
theorem rows_of_raised {rules : AlertRules} {limits : List Limit} {asked : List NewAlert}
    {writes : List AlertWrite}
    (asks : List.Forall₂ (fun limit new => limit.Asks rules input.metrics input.sensorId new)
      limits asked) (raised : List.Forall₂ RaisedFrom asked writes) :
    List.Forall₂ (IsAbout rules input) limits
      (writes.map fun write => ⟨write.record, write.next⟩) := by
  induction asks generalizing writes with
  | nil =>
    cases raised
    exact .nil
  | cons here _ ih =>
    cases raised with
    | cons first others => exact .cons (.of_raised here first) (ih others)

/-! ## With rules and without -/

/-- What alerts rules ask for on a reading, and which of them are raised. -/
structure Asking (rules : AlertRules) (input : NewReading) (asked : List NewAlert) : Prop where
  /-- They ask for one alert for each limit that is heeded. -/
  each : List.Forall₂ (fun limit new => limit.Asks rules input.metrics input.sensorId new)
    (rules.heeded input.metrics) asked
  among : (rules.heeded input.metrics).Sublist (rules.crossed input.metrics)
  /-- That is each crossed limit, unless the low one to temperatures is above the high one. -/
  heeded : rules.lowTemperature.toRat ≤ rules.highTemperature.toRat →
    rules.heeded input.metrics = rules.crossed input.metrics
  /-- An alert is raised unless its message is too long. -/
  raised_iff : ∀ new ∈ asked, ∀ id now,
    (∃ alert, Alert.raise id new now = .ok alert) ↔ new.message.length ≤ 500
  refused : ∀ new ∈ asked, ∀ id now,
    500 < new.message.length → Alert.raise id new now = .error .tooLong
  /-- No message is too long if the thresholds are brief. -/
  brief : rules.Brief → ∀ new ∈ asked, new.message.length ≤ 500

def Accepts (rules : Option AlertRules) (input : NewReading) (context : OperationContext)
    (world : World Tables) : Prop :=
  ∃ ingested, (ingest rules input context world).1 = .ok ingested

/-- What becomes of a reading with rules, and what without. -/
structure Sparing (rules : AlertRules) (input : NewReading) (context : OperationContext)
    (world : World Tables) : Prop where
  accepted_iff : Accepts (some rules) input context world ↔
    Accepts none input context world ∧
      ∀ new ∈ rules.evaluate input.sensorId input.metrics, new.message.length ≤ 500
  refused : Accepts none input context world → ¬ Accepts (some rules) input context world →
    (ingest (some rules) input context world).1 = .error (.validation .tooLong)
  brief : rules.Brief →
    (Accepts (some rules) input context world ↔ Accepts none input context world)
  /-- An accepted reading is stored as it is without rules. -/
  readings : Accepts (some rules) input context world →
    ∀ asking ∈ [none, some rules], (ingest asking input context world).2.store.readings =
      world.store.readings ++ [arrived world input]
  /-- One alert is stored with it for each limit that is heeded. -/
  alerts : Accepts (some rules) input context world →
    ∃ rows, (ingest (some rules) input context world).2.store.alerts = world.store.alerts ++ rows ∧
      List.Forall₂ (IsAbout rules input) (rules.heeded input.metrics) rows

section Finite

variable {rules : AlertRules} (finite : rules.Finite)
include finite

theorem asking_of_create {id : EntityId} {now : Instant} {reading : Reading}
    (created : Reading.create id input now = .ok reading) :
    Asking rules input (rules.evaluateReading reading.state) := by
  have known : askedFor (some rules) reading = asked (some rules) input :=
    askedFor_of_create created
  have same : rules.evaluateReading reading.state =
      rules.evaluate input.sensorId input.metrics := known
  have sound : (Reading.faults input now).isEmpty = true := by
    by_contra faulty
    cases created.symm.trans (if_neg faulty)
  obtain ⟨named, ranges⟩ := Reading.sound_of_isEmpty sound
  have measured := Metrics.finite_of_ranges ranges
  rw [same]
  constructor
  case each => exact AlertRules.evaluate_asks finite measured
  case among => exact AlertRules.heeded_sublist
  case heeded => exact AlertRules.heeded_eq_crossed
  case raised_iff =>
    intro new member id now
    have judged := AlertRules.faults_of_evaluate finite measured member named
    rw [Alert.raise, judged]
    by_cases short : new.message.length ≤ 500
    · rw [if_pos short]
      exact iff_of_true ⟨_, rfl⟩ short
    · rw [if_neg short]
      refine iff_of_false ?_ short
      rintro ⟨_, ⟨⟩⟩
  case refused =>
    intro new member id now long
    have judged := AlertRules.faults_of_evaluate finite measured member named
    rw [if_neg (Nat.not_le.mpr long)] at judged
    rw [Alert.raise, judged]
    rfl
  case brief =>
    intro brief new member
    exact AlertRules.length_le_of_brief finite measured member brief

section Healthy

variable {world : World Tables} (unset : world.store.failNextCommit = false)
  (unseen : ∀ asking ∈ [none, some rules], world.store.Unseen world.ids.draw world.ids.used
    (ingest asking input context world).2.ids.used)
include unset unseen

theorem accepts_iff :
    Accepts (some rules) input context world ↔
      Accepts none input context world ∧
        ∀ new ∈ rules.evaluate input.sensorId input.metrics, new.message.length ≤ 500 := by
  have alone := ingest_accepts_iff unset (unseen none (by simp))
  have ruled := ingest_accepts_iff unset (unseen (some rules) (by simp))
  rw [Accepts, Accepts, alone, ruled, refusal?_of_finite finite, Option.or_eq_none_iff]
  simp

theorem sparing : Sparing rules input context world := by
  have accepted_iff := accepts_iff finite unset unseen
  have alone : Accepts none input context world ↔ _ :=
    ingest_accepts_iff unset (unseen none (by simp))
  have ruled : Accepts (some rules) input context world ↔ _ :=
    ingest_accepts_iff unset (unseen (some rules) (by simp))
  have measured (accepts : Accepts none input context world) : input.metrics.Finite :=
    Metrics.finite_of_ranges
      (Reading.sound_of_isEmpty (refusal?_eq_none_iff.mp (alone.mp accepts)).1).2
  constructor
  case accepted_iff => exact accepted_iff
  case refused =>
    intro accepts rejects
    obtain ⟨error, judged⟩ := Option.ne_none_iff_exists'.mp (mt ruled.mpr rejects)
    obtain ⟨later, refused, -⟩ := turn_of_refused judged context
    rw [refusal?_of_finite finite, alone.mp accepts, Option.none_or] at judged
    split_ifs at judged
    cases judged
    exact congrArg Prod.fst refused
  case brief =>
    intro brief
    refine accepted_iff.trans (and_iff_left_of_imp fun accepts new member => ?_)
    exact AlertRules.length_le_of_brief finite (measured accepts) member brief
  case readings =>
    intro accepts asking among
    have accepted : refusal? asking world.store world.now.time input = none := by
      rcases List.mem_pair.mp among with rfl | rfl
      · exact alone.mp (accepted_iff.mp accepts).1
      · exact ruled.mp accepts
    obtain ⟨-, part, -, stored, readings, -⟩ :=
      ingest_of_accepted unset (unseen asking among) accepted
    rw [stored, ← readings]
    rfl
  case alerts =>
    intro accepts
    obtain ⟨-, part, -, stored, -, raised⟩ :=
      ingest_of_accepted unset (unseen (some rules) (by simp)) (ruled.mp accepts)
    rw [stored]
    exact ⟨_, rfl, rows_of_raised
      (AlertRules.evaluate_asks finite (measured (accepted_iff.mp accepts).1)) raised⟩

end Healthy

end Finite

/-- By rules with finite thresholds, an alert that they ask for on a sound reading is raised unless
its message is too long. So a reading is accepted with rules if it is without them and all messages
are short enough, and it is stored with one alert for each limit that is heeded. -/
theorem accepted_unless_too_long {rules : AlertRules} (finite : rules.Finite)
    (input : NewReading) :
    (∀ id now reading, Reading.create id input now = .ok reading →
      Asking rules input (rules.evaluateReading reading.state)) ∧
    ∀ context world, world.store.failNextCommit = false →
      (∀ asking ∈ [none, some rules], world.store.Unseen world.ids.draw world.ids.used
        (ingest asking input context world).2.ids.used) →
      Sparing rules input context world :=
  ⟨fun _ _ _ created => asking_of_create finite created,
    fun _ _ unset unseen => sparing finite unset unseen⟩

/-- A frost is accepted with rules that ask for an alert about it, and one is stored. -/
theorem frost_accepted :
    frostRules.Finite ∧
    (∃ reading, Reading.create ⟨1⟩ frost .epoch = .ok reading ∧
      Asking frostRules frost (frostRules.evaluateReading reading.state)) ∧
    quietFarm.store.failNextCommit = false ∧
    (∀ asking ∈ [none, some frostRules], quietFarm.store.Unseen quietFarm.ids.draw
      quietFarm.ids.used (ingest asking frost ⟨⟨9⟩, none⟩ quietFarm).2.ids.used) ∧
    (ingest (some frostRules) frost ⟨⟨9⟩, none⟩ quietFarm).2.store.alerts.length = 1 ∧
    Sparing frostRules frost ⟨⟨9⟩, none⟩ quietFarm := by
  have finite : frostRules.Finite := by
    unfold AlertRules.Finite
    decide +kernel
  obtain ⟨reading, created⟩ : ∃ reading, Reading.create ⟨1⟩ frost .epoch = .ok reading := by
    have sound : (Reading.faults frost .epoch).isEmpty = true := by decide +kernel
    exact ⟨_, by rw [Reading.create, Faults.accept, if_pos sound]⟩
  have unseen : ∀ asking ∈ [none, some frostRules], quietFarm.store.Unseen quietFarm.ids.draw
      quietFarm.ids.used (ingest asking frost ⟨⟨9⟩, none⟩ quietFarm).2.ids.used := by
    have used : ∀ asking ∈ [none, some frostRules],
        (ingest asking frost ⟨⟨9⟩, none⟩ quietFarm).2.ids.used < 2 ^ 128 := by
      decide +kernel
    exact fun asking among => ⟨fresh_quietFarm (used asking among), by rintro i - - row ⟨⟩⟩
  obtain ⟨asking, sparing⟩ := accepted_unless_too_long finite frost
  exact ⟨finite, ⟨reading, created, asking _ _ _ created⟩, rfl, unseen, by decide +kernel,
    sparing _ _ rfl unseen⟩

/-- The double nearest to `10 ^ -300`. -/
def faint : Double := ⟨0x01a56e1fc2f8f359⟩

/-- A faint warmth at the sensor of the quiet farm. -/
def faintWarmth : NewReading := ⟨⟨1⟩, .epoch, { Metrics.none with temperature := some faint }⟩

/-- Rules by which a temperature is high above the double nearest to `-10 ^ 300`. -/
def strictRules : AlertRules :=
  { AlertRules.standard with highTemperature := ⟨0xfe37e43c8800759c⟩ }

/-- Fifteen degrees at the sensor of the quiet farm. -/
def mildDay : NewReading :=
  ⟨⟨1⟩, .epoch, { Metrics.none with temperature := some (.ofInt 15) }⟩

/-- Rules by which a temperature is low below twenty degrees and high above ten. -/
def invertedRules : AlertRules :=
  { AlertRules.standard with highTemperature := .ofInt 10, lowTemperature := .ofInt 20 }

/-- A faint warmth is stored without rules, and refused with rules for the length of the message
that tells of it. A mild day crosses two limits of inverted rules, and one alert is stored. -/
theorem faintWarmth_refused :
    strictRules.Finite ∧ invertedRules.Finite ∧ quietFarm.store.failNextCommit = false ∧
    (∀ high < 2 ^ 128, quietFarm.store.Unseen quietFarm.ids.draw quietFarm.ids.used high) ∧
    (ingest none faintWarmth ⟨⟨9⟩, none⟩ quietFarm).1 = .ok ⟨⟨1⟩, ⟨1⟩, 1, 0⟩ ∧
    (ingest (some strictRules) faintWarmth ⟨⟨9⟩, none⟩ quietFarm).1 =
      .error (.validation ⟨[⟨"message", "must be at most 500 characters"⟩]⟩) ∧
    (invertedRules.crossed mildDay.metrics).length = 2 ∧
    (ingest (some invertedRules) mildDay ⟨⟨9⟩, none⟩ quietFarm).2.store.alerts.length = 1 := by
  have finite : strictRules.Finite ∧ invertedRules.Finite := by
    unfold AlertRules.Finite
    decide +kernel
  have measured : faintWarmth.metrics.Finite := by
    unfold Metrics.Finite
    decide +kernel
  have long : ¬ (Limit.highTemperature.alert strictRules ⟨1⟩ faint).message.length ≤ 500 := by
    have message : (Limit.highTemperature.alert strictRules ⟨1⟩ faint).message =
        Limit.highTemperature.message strictRules faint := rfl
    have value : Decimal.width faint = 302 := by decide +kernel
    have threshold : Decimal.width (Limit.highTemperature.threshold strictRules) = 302 := by
      decide +kernel
    rw [message, Limit.length_message (by decide) (by decide), value, threshold]
    omega
  have asked : Limit.highTemperature.alert strictRules ⟨1⟩ faint ∈
      strictRules.evaluate faintWarmth.sensorId faintWarmth.metrics := by
    have heeded : Limit.highTemperature.isHeeded strictRules faintWarmth.metrics = true := by
      decide +kernel
    rw [AlertRules.evaluate_eq finite.1 measured]
    refine List.mem_flatMap.mpr ⟨.highTemperature, .head _, ?_⟩
    rw [Limit.asked_of_some rfl, if_pos heeded]
    exact List.mem_singleton_self _
  have judged : refusal? (some strictRules) quietFarm.store quietFarm.now.time faintWarmth =
      some (.validation .tooLong) := by
    have alone : refusal? none quietFarm.store quietFarm.now.time faintWarmth = none := by
      decide +kernel
    rw [refusal?_of_finite finite.1, alone, Option.none_or, if_neg]
    exact fun short => long (short _ asked)
  obtain ⟨later, refused, -⟩ := turn_of_refused judged ⟨⟨9⟩, none⟩
  refine ⟨finite.1, finite.2, rfl, ?_, by decide +kernel, congrArg Prod.fst refused,
    by decide +kernel, by decide +kernel⟩
  exact fun high below => ⟨fresh_quietFarm below, by rintro i - - row ⟨⟩⟩

end Fieldwatch.Ingest
