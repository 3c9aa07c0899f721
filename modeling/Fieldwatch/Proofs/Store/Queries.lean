import Fieldwatch.Proofs.Access
import Fieldwatch.Proofs.Store.Retention
import Fieldwatch.Proofs.Time.Apart

/-!
# Queries over the readings

A query asks for the readings of a sensor within a time window. The answer is all of them, each
once, by time and then by when they were recorded, or a page of that. As long as nothing is written,
the pages of a size put together are the whole answer.
-/
namespace Fieldwatch

/-! ## What is asked for -/

namespace ReadingQuery

variable {query : ReadingQuery} {sensorId : SensorId} {time : Instant}

/-- Whether a query asks for the readings of a sensor at a time. -/
structure Asks (query : ReadingQuery) (sensorId : SensorId) (time : Instant) : Prop where
  sensor : ∀ wanted, query.sensorId = some wanted → sensorId = wanted
  notBefore : ∀ earliest, query.earliest = some earliest → earliest ≤ time
  notAfter : ∀ latest, query.latest = some latest → time ≤ latest

theorem accepts_iff : query.accepts sensorId time = true ↔ query.Asks sensorId time := by
  have all {α : Type} (bound : Option α) (holds : α → Bool) :
      bound.all holds = true ↔ ∀ value, bound = some value → holds value = true := by
    cases bound <;> simp
  simp only [accepts, Bool.and_eq_true, all, decide_eq_true_eq]
  constructor
  · rintro ⟨⟨sensor, earliest⟩, latest⟩
    exact ⟨fun wanted same => (sensor wanted same).symm, earliest, latest⟩
  · rintro ⟨sensor, earliest, latest⟩
    exact ⟨⟨fun wanted same => (sensor wanted same).symm, earliest⟩, latest⟩

/-- The query without limit and offset. -/
def whole (query : ReadingQuery) : ReadingQuery := { query with limit := none, offset := none }

/-- The query for one of the pages of a size. -/
def pageAt (query : ReadingQuery) (size : UInt64) (number : Nat) : ReadingQuery :=
  { query with limit := some size, offset := some (UInt64.ofNat (number * size.toNat)) }

theorem page_pageAt {size : UInt64} {number : Nat} {α : Type}
    (fits : number * size.toNat < UInt64.size) (rows : List α) :
    (query.pageAt size number).page rows = (rows.drop (number * size.toNat)).take size.toNat := by
  have skipped : (UInt64.ofNat (number * size.toNat)).toNat = number * size.toNat :=
    UInt64.toNat_ofNat_of_lt fits
  simp only [pageAt, page, Option.map_some, Option.getD_some, skipped]

end ReadingQuery

/-! ## Readings under their identifiers -/

namespace Tables

variable {tables : Tables}

/-- Whether no two readings have one identifier. -/
def DistinctReadings (tables : Tables) : Prop := (tables.readings.map ReadingRecord.id).Nodup

theorem DistinctReadings.call (distinct : tables.DistinctReadings) (call : OutboxCall) :
    (tables.call call).DistinctReadings := by
  cases call with
  | commit changes =>
    rcases commit_cases tables changes with ⟨error, refused, -⟩ | ⟨taken, -⟩
    · rw [Tables.call, refused]
      exact distinct
    · have grown := (applies_applied tables changes).readings
      rw [Tables.call, taken, DistinctReadings, grown, List.map_append]
      exact nodup_keys_firstOfKey _ distinct changes.readings
  | failNext => exact distinct
  | markPublished id now | markFailed id reason now =>
    simp only [Tables.call, mark]
    split <;> exact distinct
  | prune retention now =>
    simp only [Tables.call, prune]
    split <;> exact distinct
  | clear => exact List.nodup_nil

theorem distinctReadings_callAll (calls : List OutboxCall) :
    (empty.callAll calls).DistinctReadings := by
  induction calls using List.reverseRecOn with
  | nil => exact List.nodup_nil
  | append_singleton calls last ih =>
    rw [callAll, List.foldl_append]
    exact ih.call last

/-! ## The whole answer -/

theorem notAfter_iff {a b : ReadingRecord} :
    notAfter a b = true ↔ a.time < b.time ∨ a.time = b.time ∧ a.recordedAt ≤ b.recordedAt := by
  simp [notAfter]

theorem pairwise_mergeSort_notAfter (rows : List ReadingRecord) :
    (rows.mergeSort notAfter).Pairwise fun first later =>
      first.time < later.time ∨ first.time = later.time ∧ first.recordedAt ≤ later.recordedAt := by
  have trans (a b c : ReadingRecord) : notAfter a b = true → notAfter b c = true →
      notAfter a c = true := by
    simp only [notAfter_iff]
    rintro (before | ⟨same, before⟩) (after | ⟨alike, after⟩)
    · exact .inl (lt_trans before after)
    · exact .inl (alike ▸ before)
    · exact .inl (same ▸ after)
    · exact .inr ⟨same.trans alike, le_trans before after⟩
  have total (a b : ReadingRecord) : (notAfter a b || notAfter b a) = true := by
    simp only [Bool.or_eq_true, notAfter_iff]
    rcases lt_trichotomy a.time b.time with before | same | after
    · exact .inl (.inl before)
    · rcases le_total a.recordedAt b.recordedAt with before | after
      · exact .inl (.inr ⟨same, before⟩)
      · exact .inr (.inr ⟨same.symm, after⟩)
    · exact .inr (.inl after)
  exact (List.pairwise_mergeSort trans total rows).imp notAfter_iff.mp

/-- Whether readings are all that a query asks for, each once, by time and then by when they were
recorded. -/
structure Answers (tables : Tables) (query : ReadingQuery) (full : List ReadingRecord) : Prop where
  ordered : full.Pairwise fun first later =>
    first.time < later.time ∨ first.time = later.time ∧ first.recordedAt ≤ later.recordedAt
  once : (full.map ReadingRecord.id).Nodup
  exactly : ∀ row, row ∈ full ↔ row ∈ tables.readings ∧ query.Asks row.sensorId row.time

theorem DistinctReadings.answers (distinct : tables.DistinctReadings) (query : ReadingQuery) :
    tables.Answers query ((tables.readings.filter fun row =>
      query.accepts row.sensorId row.time).mergeSort notAfter) where
  ordered := pairwise_mergeSort_notAfter _
  once := ((List.mergeSort_perm _ _).map ReadingRecord.id).nodup_iff.mpr
    (distinct.sublist (List.filter_sublist.map _))
  exactly row := by rw [List.mem_mergeSort, List.mem_filter, ReadingQuery.accepts_iff]

end Tables

/-! ## Pages -/

/-- The pages of a size, one after the other. -/
def Backend.pages {σ : Type} [Backend σ] (query : ReadingQuery) (size : UInt64) (count : Nat) :
    Access σ (List (List ReadingRecord)) :=
  ((List.range count).map (query.pageAt size)).mapM queryReadings

theorem flatten_pages {α : Type} (rows : List α) (size count : Nat) :
    ((List.range count).map fun number => (rows.drop (number * size)).take size).flatten =
      rows.take (count * size) := by
  induction count with
  | zero => simp
  | succ count ih =>
    rw [List.range_succ, List.map_append, List.flatten_append, ih, Nat.succ_mul, List.take_add]
    simp

/-- Some number of pages covers rows, each of them with some. -/
theorem exists_covering (length : Nat) {size : Nat} (positive : 0 < size) :
    ∃ count, length ≤ count * size ∧ ∀ number < count, number * size < length := by
  induction length with
  | zero => exact ⟨0, Nat.zero_le _, by rintro _ ⟨⟩⟩
  | succ length ih =>
    obtain ⟨count, covered, needed⟩ := ih
    by_cases enough : length + 1 ≤ count * size
    · exact ⟨count, enough, fun number before => Nat.lt_succ_of_lt (needed number before)⟩
    · refine ⟨count + 1, ?_, fun number before => ?_⟩
      · rw [Nat.succ_mul]
        omega
      · have := Nat.mul_le_mul_right size (Nat.le_of_lt_succ before)
        omega

namespace Tables

variable {tables : Tables}

theorem pages_apply (tables : Tables) (query : ReadingQuery) {size : UInt64} {count : Nat}
    (fits : ∀ number < count, number * size.toNat < UInt64.size) :
    Backend.pages query size count tables =
      (.ok ((List.range count).map fun number =>
          ((tables.readingsFor query.whole).drop (number * size.toNat)).take size.toNat),
        tables) := by
  have one (query : ReadingQuery) :
      Backend.queryReadings query tables = (.ok (tables.readingsFor query), tables) := rfl
  have asked := Access.mapM_apply one ((List.range count).map (query.pageAt size))
  rw [Backend.pages, asked, List.map_map]
  congr 2
  refine List.map_congr_left fun number member => ?_
  exact ReadingQuery.page_pageAt (fits number (List.mem_range.mp member)) _

/-- A query without limit and offset answers all readings that it asks for, each once and in order;
with them it answers that much of these. The pages of a size put together are the front of these
readings, and all of them from some number of pages on. -/
theorem queries_answer_pages (distinct : tables.DistinctReadings) (query : ReadingQuery) :
    ∃ full, Backend.queryReadings query.whole tables = (.ok full, tables) ∧
      tables.Answers query full ∧
      Backend.queryReadings query tables =
        (.ok (match query.limit, query.offset with
          | none, none => full
          | none, some offset => full.drop offset.toNat
          | some limit, none => full.take limit.toNat
          | some limit, some offset => (full.drop offset.toNat).take limit.toNat), tables) ∧
      ∀ size : UInt64, 0 < size →
        (∀ count, (∀ number < count, number * size.toNat < UInt64.size) →
          ∃ pages, Backend.pages query size count tables = (.ok pages, tables) ∧
            pages.flatten = full.take (count * size.toNat)) ∧
        (full.length ≤ UInt64.size →
          ∃ count pages, Backend.pages query size count tables = (.ok pages, tables) ∧
            pages.flatten = full) := by
  refine ⟨_, rfl, distinct.answers query, ?_, fun size positive => ?_⟩
  · obtain ⟨sensorId, earliest, latest, _ | limit, _ | offset⟩ := query <;> rfl
  have front (count : Nat) (fits : ∀ number < count, number * size.toNat < UInt64.size) :
      ∃ pages, Backend.pages query size count tables = (.ok pages, tables) ∧
        pages.flatten = (tables.readingsFor query.whole).take (count * size.toNat) :=
    ⟨_, pages_apply tables query fits, flatten_pages _ _ _⟩
  refine ⟨front, fun small => ?_⟩
  obtain ⟨count, covered, needed⟩ := exists_covering
    (tables.readingsFor query.whole).length (UInt64.lt_iff_toNat_lt.mp positive)
  obtain ⟨pages, asked, together⟩ := front count fun number before =>
    Nat.lt_of_lt_of_le (needed number before) small
  exact ⟨count, pages, asked, together.trans (List.take_of_length_le covered)⟩

/-- A sample of a gauge, so many nanoseconds after the epoch. -/
def sample (id : EntityId) (gauge : SensorId) (after : Nat) : ReadingRecord where
  id
  sensorId := gauge
  time := (Instant.ofNanos? after).getD .epoch
  metrics := .none
  recordedAt := .epoch

/-- Samples of two gauges, of which one is staged twice and two are of one time. -/
def sampled : Tables :=
  empty.callAll [
    .commit { readings := [sample ⟨1⟩ ⟨7⟩ 3, sample ⟨2⟩ ⟨8⟩ 4, sample ⟨3⟩ ⟨7⟩ 5] },
    .commit { readings := [sample ⟨1⟩ ⟨7⟩ 9, sample ⟨4⟩ ⟨7⟩ 5, sample ⟨5⟩ ⟨7⟩ 2] }]

/-- Three samples of one gauge from some time on, on pages of two. -/
theorem sampled_answer_pages :
    let query : ReadingQuery := { sensorId := some ⟨7⟩, earliest := some (sample ⟨0⟩ ⟨7⟩ 3).time }
    ∃ pages, Backend.pages query 2 2 sampled = (.ok pages, sampled) ∧
      pages.flatten = [sample ⟨1⟩ ⟨7⟩ 3, sample ⟨3⟩ ⟨7⟩ 5, sample ⟨4⟩ ⟨7⟩ 5] := by
  intro query
  obtain ⟨full, answered, -, -, paged⟩ :=
    queries_answer_pages (distinctReadings_callAll _ : sampled.DistinctReadings) query
  obtain rfl : sampled.readingsFor query.whole = full :=
    Except.ok.inj (congrArg Prod.fst answered)
  obtain ⟨pages, asked, together⟩ := (paged 2 (by decide)).1 2 (by decide)
  have wanted : (sampled.readings.filter fun row => query.accepts row.sensorId row.time) =
      [sample ⟨1⟩ ⟨7⟩ 3, sample ⟨3⟩ ⟨7⟩ 5, sample ⟨4⟩ ⟨7⟩ 5] := by rfl
  have ordered : [sample ⟨1⟩ ⟨7⟩ 3, sample ⟨3⟩ ⟨7⟩ 5, sample ⟨4⟩ ⟨7⟩ 5].Pairwise fun first later =>
      notAfter first later = true := by decide
  have sorted : sampled.readingsFor query.whole =
      [sample ⟨1⟩ ⟨7⟩ 3, sample ⟨3⟩ ⟨7⟩ 5, sample ⟨4⟩ ⟨7⟩ 5] := by
    change (sampled.readings.filter fun row =>
      query.accepts row.sensorId row.time).mergeSort notAfter = _
    rw [wanted, List.mergeSort_of_pairwise ordered]
  exact ⟨pages, asked, by rw [together, sorted]; rfl⟩

end Tables
end Fieldwatch
