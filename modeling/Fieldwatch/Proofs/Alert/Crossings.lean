import Fieldwatch.Alert.Rules
import Fieldwatch.Proofs.Decimal.Lengths
import Fieldwatch.Proofs.Text.Trimmed
import Fieldwatch.Proofs.Validation.Factories

/-!
# Crossed limits

What rules ask for on a reading, said by the values of its metrics: one alert for each limit that a
metric is beyond, but for a temperature that is above its high limit none for its low one. All that
can be wrong with such an alert is the length of its message, which holds two numbers in full.
-/
namespace Fieldwatch

/-- A limit to a metric, and what an alert says of a value beyond it. -/
structure Limit where
  kind : AlertKind
  severity : Severity
  value : Metrics → Option Double
  threshold : AlertRules → Double
  /-- Whether it is crossed above the threshold, and not below. -/
  above : Bool
  what : String
  unit : String

namespace Limit

def highTemperature : Limit where
  kind := .highTemperature
  severity := .high
  value := Metrics.temperature
  threshold := AlertRules.highTemperature
  above := true
  what := "Temperature"
  unit := " °C"

def lowTemperature : Limit where
  kind := .lowTemperature
  severity := .high
  value := Metrics.temperature
  threshold := AlertRules.lowTemperature
  above := false
  what := "Temperature"
  unit := " °C"

def lowSoilMoisture : Limit where
  kind := .lowSoilMoisture
  severity := .medium
  value := Metrics.soilMoisture
  threshold := AlertRules.lowSoilMoisture
  above := false
  what := "Soil moisture"
  unit := "%"

def highHumidity : Limit where
  kind := .highHumidity
  severity := .low
  value := Metrics.humidity
  threshold := AlertRules.highHumidity
  above := true
  what := "Humidity"
  unit := "%"

def lowBattery : Limit where
  kind := .lowBattery
  severity := .medium
  value := Metrics.batteryLevel
  threshold := AlertRules.lowBattery
  above := false
  what := "Battery level"
  unit := "%"

/-- The limits in the order of their alerts. -/
def all : List Limit :=
  [highTemperature, lowTemperature, lowSoilMoisture, highHumidity, lowBattery]

variable (limit : Limit) (rules : AlertRules) (metrics : Metrics)

/-- Whether a value lies strictly beyond the threshold. -/
def Beyond (x : Double) : Prop :=
  if limit.above then (limit.threshold rules).toRat < x.toRat
  else x.toRat < (limit.threshold rules).toRat

instance (x : Double) : Decidable (limit.Beyond rules x) := by
  unfold Beyond
  infer_instance

def isCrossed : Bool := (limit.value metrics).any fun x => limit.Beyond rules x

/-- Whether the limit is crossed and an alert is asked for. -/
def isHeeded : Bool :=
  limit.isCrossed rules metrics &&
    !(limit.kind = .lowTemperature && highTemperature.isCrossed rules metrics)

def message (x : Double) : String :=
  AlertRules.wording limit.what x limit.unit (if limit.above then "above" else "below")
    (limit.threshold rules)

/-- The alert about a value beyond the limit. -/
def alert (sensorId : SensorId) (x : Double) : NewAlert :=
  AlertRules.crossing sensorId limit.kind limit.severity x (limit.threshold rules)
    (limit.message rules x)

/-- Whether an alert is the one about the value of a metric beyond the limit. -/
def Asks (sensorId : SensorId) (new : NewAlert) : Prop :=
  ∃ x ∈ limit.value metrics, limit.Beyond rules x ∧ new = limit.alert rules sensorId x

variable {limit rules metrics}

theorem isCrossed_iff :
    limit.isCrossed rules metrics = true ↔ ∃ x ∈ limit.value metrics, limit.Beyond rules x := by
  cases measured : limit.value metrics <;> simp [isCrossed, measured]

end Limit

/-- Whether all values that are held against limits are finite. -/
def Metrics.Finite (metrics : Metrics) : Prop :=
  ∀ limit ∈ Limit.all, ∀ x ∈ limit.value metrics, x.isFinite = true

theorem Metrics.finite_of_ranges {metrics : Metrics}
    (sound : ∀ check ∈ metrics.ranges, check.holds) : metrics.Finite := by
  have temperature := sound (.range "temperature" metrics.temperature (-50) 70) (by simp [ranges])
  have humidity := sound (.range "humidity" metrics.humidity 0 100) (by simp [ranges])
  have moisture := sound (.range "soil_moisture" metrics.soilMoisture 0 100) (by simp [ranges])
  have battery := sound (.range "battery_level" metrics.batteryLevel 0 100) (by simp [ranges])
  intro limit among x here
  simp only [Limit.all, List.mem_cons, List.not_mem_nil, or_false] at among
  rcases among with rfl | rfl | rfl | rfl | rfl
  · exact (temperature x here).1
  · exact (temperature x here).1
  · exact (moisture x here).1
  · exact (humidity x here).1
  · exact (battery x here).1

namespace AlertRules

variable (rules : AlertRules) (metrics : Metrics)

/-- Whether all thresholds are finite. -/
def Finite : Prop := ∀ limit ∈ Limit.all, (limit.threshold rules).isFinite = true

/-- Whether every threshold takes at most 145 characters in full. -/
def Brief : Prop := ∀ limit ∈ Limit.all, (Decimal.plain (limit.threshold rules)).length ≤ 145

def crossed : List Limit := Limit.all.filter fun limit => limit.isCrossed rules metrics

/-- The crossed limits that alerts are asked for. -/
def heeded : List Limit := Limit.all.filter fun limit => limit.isHeeded rules metrics

variable {rules metrics}

theorem heeded_sublist : (rules.heeded metrics).Sublist (rules.crossed metrics) := by
  refine List.monotone_filter_right _ fun limit heeded => ?_
  exact Bool.and_elim_left heeded

/-- A temperature is not beyond both of its limits if the low one is not above the high one. -/
theorem not_below_of_above (orderly : rules.lowTemperature.toRat ≤ rules.highTemperature.toRat)
    (above : Limit.highTemperature.isCrossed rules metrics = true) :
    Limit.lowTemperature.isCrossed rules metrics = false := by
  obtain ⟨x, measured, high⟩ := Limit.isCrossed_iff.mp above
  by_contra below
  obtain ⟨y, again, low⟩ := Limit.isCrossed_iff.mp (Bool.eq_true_of_not_eq_false below)
  cases Option.some_inj.mp (measured.symm.trans again)
  exact absurd (low.trans_le orderly) (not_lt_of_gt high)

/-- Every crossed limit is heeded then, since only the low one to temperatures ever gives way. -/
theorem heeded_eq_crossed (orderly : rules.lowTemperature.toRat ≤ rules.highTemperature.toRat) :
    rules.heeded metrics = rules.crossed metrics := by
  refine List.filter_congr fun limit among => ?_
  have alone : limit.kind = .lowTemperature → limit = Limit.lowTemperature := by
    simp only [Limit.all, List.mem_cons, List.not_mem_nil, or_false] at among
    rcases among with rfl | rfl | rfl | rfl | rfl <;> intro kind <;> first | rfl | cases kind
  rw [Limit.isHeeded]
  cases above : Limit.highTemperature.isCrossed rules metrics with
  | false => simp
  | true =>
    by_cases low : limit.kind = .lowTemperature
    · rw [alone low, not_below_of_above orderly above]
      rfl
    · simp [low]

end AlertRules

/-! ## What is asked for -/

namespace Limit

variable {limit : Limit} {rules : AlertRules} {metrics : Metrics} {sensorId : SensorId}

/-- The alerts that a limit is cause for, one or none. -/
def asked (limit : Limit) (rules : AlertRules) (sensorId : SensorId) (metrics : Metrics) :
    List NewAlert :=
  if limit.isHeeded rules metrics then
    (limit.value metrics).toList.map (limit.alert rules sensorId)
  else []

/-- What is asked for is the alert of each limit that is heeded. -/
theorem asks_asked (limits : List Limit) :
    List.Forall₂ (fun limit new => limit.Asks rules metrics sensorId new)
      (limits.filter fun limit => limit.isHeeded rules metrics)
      (limits.flatMap fun limit => limit.asked rules sensorId metrics) := by
  induction limits with
  | nil => exact .nil
  | cons limit limits ih =>
    rw [List.flatMap_cons, asked]
    cases heeded : limit.isHeeded rules metrics with
    | false =>
      rw [List.filter_cons_of_neg (by simp [heeded])]
      exact ih
    | true =>
      obtain ⟨x, measured, beyond⟩ := isCrossed_iff.mp (Bool.and_elim_left heeded)
      rw [List.filter_cons_of_pos (by simpa using heeded), measured]
      exact .cons ⟨x, measured, beyond, rfl⟩ ih

theorem asked_of_none (absent : limit.value metrics = none) :
    limit.asked rules sensorId metrics = [] := by
  simp [asked, absent]

theorem asked_of_some {x : Double} (measured : limit.value metrics = some x) :
    limit.asked rules sensorId metrics =
      if limit.isHeeded rules metrics then [limit.alert rules sensorId x] else [] := by
  rw [asked, measured]
  rfl

theorem isCrossed_of_some {x : Double} (measured : limit.value metrics = some x) :
    limit.isCrossed rules metrics = decide (limit.Beyond rules x) := by
  rw [isCrossed, measured]
  rfl

theorem asked_of_alone (limit : Limit) (alone : limit.kind ≠ .lowTemperature)
    {ask : Double → List NewAlert}
    (asks : ∀ x, limit.value metrics = some x →
      ask x = if limit.isCrossed rules metrics then [limit.alert rules sensorId x] else []) :
    (limit.value metrics).toList.flatMap ask = limit.asked rules sensorId metrics := by
  cases here : limit.value metrics with
  | none => rw [asked_of_none here]; rfl
  | some x =>
    rw [Option.toList_some, List.flatMap_singleton, asks x here, asked_of_some here]
    simp [isHeeded, alone]

end Limit

namespace AlertRules

variable {rules : AlertRules} {metrics : Metrics} {sensorId : SensorId}

section Sound

variable (finite : rules.Finite) (measured : metrics.Finite)
include finite measured

/-- Rules compare doubles, which are in the order of their values. -/
theorem compare_eq (limit : Limit) (among : limit ∈ Limit.all) {x : Double}
    (here : limit.value metrics = some x) :
    (if limit.above then (limit.threshold rules).lt x else x.lt (limit.threshold rules)) =
      limit.isCrossed rules metrics := by
  have value := measured limit among x here
  have threshold := finite limit among
  rw [Limit.isCrossed_of_some here, Bool.eq_iff_iff, decide_eq_true_eq, Limit.Beyond]
  split_ifs
  · exact Double.lt_iff threshold value
  · exact Double.lt_iff value threshold

theorem ofTemperature_asked :
    metrics.temperature.toList.flatMap (rules.ofTemperature sensorId) =
      Limit.highTemperature.asked rules sensorId metrics ++
        Limit.lowTemperature.asked rules sensorId metrics := by
  cases here : metrics.temperature with
  | none => rw [Limit.asked_of_none here, Limit.asked_of_none here]; rfl
  | some x =>
    have high : rules.highTemperature.lt x = Limit.highTemperature.isCrossed rules metrics :=
      compare_eq finite measured .highTemperature (by simp [Limit.all]) here
    have low : x.lt rules.lowTemperature = Limit.lowTemperature.isCrossed rules metrics :=
      compare_eq finite measured .lowTemperature (by simp [Limit.all]) here
    rw [Limit.asked_of_some here, Limit.asked_of_some here, Limit.isHeeded, Limit.isHeeded, ← high,
      ← low, Option.toList_some, List.flatMap_singleton, ofTemperature]
    -- The low threshold is compared only where the high one is not crossed.
    cases rules.highTemperature.lt x <;> cases x.lt rules.lowTemperature <;> rfl

theorem evaluate_eq :
    rules.evaluate sensorId metrics =
      Limit.all.flatMap fun limit => limit.asked rules sensorId metrics := by
  have soilMoisture : metrics.soilMoisture.toList.flatMap (rules.ofSoilMoisture sensorId) =
      Limit.lowSoilMoisture.asked rules sensorId metrics := by
    refine Limit.asked_of_alone .lowSoilMoisture (by decide) fun x here => ?_
    rw [← compare_eq finite measured .lowSoilMoisture (by simp [Limit.all]) here]
    rfl
  have humidity : metrics.humidity.toList.flatMap (rules.ofHumidity sensorId) =
      Limit.highHumidity.asked rules sensorId metrics := by
    refine Limit.asked_of_alone .highHumidity (by decide) fun x here => ?_
    rw [← compare_eq finite measured .highHumidity (by simp [Limit.all]) here]
    rfl
  have battery : metrics.batteryLevel.toList.flatMap (rules.ofBattery sensorId) =
      Limit.lowBattery.asked rules sensorId metrics := by
    refine Limit.asked_of_alone .lowBattery (by decide) fun x here => ?_
    rw [← compare_eq finite measured .lowBattery (by simp [Limit.all]) here]
    rfl
  rw [evaluate, ofTemperature_asked finite measured, soilMoisture, humidity, battery]
  simp [Limit.all]

/-- Rules ask for one alert for each limit that is heeded, in the order of the limits. -/
theorem evaluate_asks :
    List.Forall₂ (fun limit new => limit.Asks rules metrics sensorId new) (rules.heeded metrics)
      (rules.evaluate sensorId metrics) := by
  rw [evaluate_eq finite measured]
  exact Limit.asks_asked Limit.all

end Sound

end AlertRules

/-- Each of two related rows answers to one of the other. -/
theorem exists_of_forall₂ {α β : Type} {Related : α → β → Prop} {rows : List α} {others : List β}
    (related : List.Forall₂ Related rows others) {other : β} (member : other ∈ others) :
    ∃ row ∈ rows, Related row other := by
  induction related with
  | nil => cases member
  | cons here _ ih =>
    rcases List.mem_cons.mp member with rfl | later
    · exact ⟨_, .head _, here⟩
    · obtain ⟨row, among, related⟩ := ih later
      exact ⟨row, .tail _ among, related⟩

/-! ## What can be wrong with it -/

/-- The refusal of an alert for the length of its message alone. -/
def Faults.tooLong : Faults := ⟨[⟨"message", "must be at most 500 characters"⟩]⟩

/-- What can be wrong with an alert that has a sensor, a message with nothing to trim and finite
numbers. -/
theorem Alert.faults_of_worded {new : NewAlert} (named : new.sensorId ≠ .nil)
    (front : Text.begins new.message = true) (back : Text.ends new.message = true)
    (value : ∀ x ∈ new.value, x.isFinite = true)
    (threshold : ∀ x ∈ new.threshold, x.isFinite = true) :
    Alert.faults new = if new.message.length ≤ 500 then .none else .tooLong := by
  have whole : Text.trim new.message = new.message :=
    Text.trim_eq_self (Text.trimmed_of_ends front back)
  have some : new.message.length ≠ 0 := by
    intro nothing
    rw [String.length_eq_zero_iff.mp nothing] at front
    cases front
  have sensor : new.sensorId.isNil = false := by
    simpa using mt Id.isNil_iff.mp (not_not.mpr named)
  have value : (new.value.any fun x => !x.isFinite) = false := by
    cases here : new.value with
    | none => rfl
    | some x => simp [value x here]
  have threshold : (new.threshold.any fun x => !x.isFinite) = false := by
    cases here : new.threshold with
    | none => rfl
    | some x => simp [threshold x here]
  have limit : NewAlert.maxMessageLength = 500 := rfl
  simp only [faults, Faults.checkFinite, Faults.check, whole, sensor, value, threshold, some, limit,
    decide_false, Bool.false_eq_true, if_false, decide_eq_true_eq, ← Nat.not_le, ite_not]
  rfl

namespace Limit

variable {limit : Limit} {rules : AlertRules} {x : Double}

/-- An alert about a limit says it in words of a few characters, and in two numbers in full. -/
theorem length_message (finite : (limit.threshold rules).isFinite = true)
    (measured : x.isFinite = true) :
    (limit.message rules x).length = limit.what.length + 2 * limit.unit.length + 11 +
      Decimal.width x + Decimal.width (limit.threshold rules) := by
  have relation : (if limit.above then "above" else "below").length = 5 := by
    cases limit.above <;> rfl
  have words : " ".length = 1 ∧ " is ".length = 4 := ⟨rfl, rfl⟩
  simp only [message, AlertRules.wording, String.length_append, relation, words,
    Decimal.length_plain finite, Decimal.length_plain measured]
  omega

/-- The words take at most 28 characters, and have no blanks at their ends. -/
theorem words_spec : ∀ limit ∈ all, limit.what.length + 2 * limit.unit.length + 11 ≤ 28 ∧
    Text.begins limit.what = true ∧ Text.ends limit.unit = true := by
  decide

section Asked

variable {sensorId : SensorId} {metrics : Metrics} {new : NewAlert} (finite : rules.Finite)
  (measured : metrics.Finite) (among : limit ∈ all) (asks : limit.Asks rules metrics sensorId new)
include finite measured among asks

/-- All that can be wrong with an alert that rules ask for is that its message is too long. -/
theorem faults_of_asks (named : sensorId ≠ .nil) :
    Alert.faults new = if new.message.length ≤ 500 then .none else .tooLong := by
  obtain ⟨x, here, -, rfl⟩ := asks
  obtain ⟨-, front, back⟩ := words_spec limit among
  refine Alert.faults_of_worded named ?_ (Text.ends_append back) ?_ ?_
  · simp only [alert, AlertRules.crossing, message, AlertRules.wording, String.append_assoc]
    exact Text.begins_append front
  · rintro y ⟨⟩
    exact measured limit among x here
  · rintro y ⟨⟩
    exact finite limit among

/-- It is not if the threshold takes at most 145 characters. -/
theorem length_le_of_asks (brief : rules.Brief) : new.message.length ≤ 500 := by
  obtain ⟨x, here, -, rfl⟩ := asks
  obtain ⟨words, -⟩ := words_spec limit among
  have value := Decimal.width_le (measured limit among x here)
  have threshold := brief limit among
  rw [Decimal.length_plain (finite limit among)] at threshold
  have length := length_message (finite limit among) (measured limit among x here)
  change (limit.message rules x).length ≤ 500
  omega

end Asked

end Limit

namespace AlertRules

variable {rules : AlertRules} {metrics : Metrics} {sensorId : SensorId} {new : NewAlert}
  (finite : rules.Finite) (measured : metrics.Finite)
  (member : new ∈ rules.evaluate sensorId metrics)
include finite measured member

/-- Rules ask for nothing but alerts about limits. -/
theorem exists_asks : ∃ limit ∈ Limit.all, limit.Asks rules metrics sensorId new := by
  obtain ⟨limit, heeded, asks⟩ := exists_of_forall₂ (evaluate_asks finite measured) member
  exact ⟨limit, List.mem_of_mem_filter heeded, asks⟩

theorem faults_of_evaluate (named : sensorId ≠ .nil) :
    Alert.faults new = if new.message.length ≤ 500 then .none else .tooLong := by
  obtain ⟨limit, among, asks⟩ := exists_asks finite measured member
  exact Limit.faults_of_asks finite measured among asks named

theorem length_le_of_brief (brief : rules.Brief) : new.message.length ≤ 500 := by
  obtain ⟨limit, among, asks⟩ := exists_asks finite measured member
  exact Limit.length_le_of_asks finite measured among asks brief

end AlertRules

end Fieldwatch
