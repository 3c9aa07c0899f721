import Fieldwatch.Inbox.Policy
import Fieldwatch.Owner.Snapshot
import Fieldwatch.Sensor.Snapshot
import Fieldwatch.Proofs.Store.Retention

/-!
# Windows without bounds

Where a window starts is a matter of integers without bounds, also where no instant is. The tests of
windows decide as those integers do: where the start is out of range, the answer that is given
instead is theirs too. The tolerance of a policy is in its range, and what lies there is kept.
-/
namespace Fieldwatch

namespace Instant

/-! ## Where a window starts -/

/-- The rank of the moment that lies a number of nanoseconds from 1 January 1970, outside leap
seconds and whether or not it is in range. -/
def rankOfNanos (nanos : Int) : Int :=
  nanos / 1000000000 * 2000000000 + nanos % 1000000000

/-- The rank of the moment that lies some nanoseconds before an instant, whether or not it is in
range. From within a leap second, less than a second leads back along the fraction alone. -/
def rankBefore (moment : Instant) (length : Int) : Int :=
  if moment.isLeap ∧ length < 1000000000 then moment.rank - length
  else rankOfNanos (moment.nanos - length)

variable {moment other : Instant} {length : Int}

theorem rank_of_ofNanos? {nanos : Int} (found : ofNanos? nanos = some moment) :
    moment.rank = rankOfNanos nanos := by
  obtain ⟨same, plain⟩ := ofNanos?_eq_some_iff.mp found
  simp only [isLeap, decide_eq_false_iff_not] at plain
  subst same
  simp only [rank, rankOfNanos, Instant.nanos]
  omega

/-- What lies before the first instant has a rank below those of all instants. -/
theorem rankOfNanos_lt {nanos : Int} (early : nanos / 1000000000 < first) :
    rankOfNanos nanos < moment.rank := by
  have start := moment.first_le
  simp only [rank, rankOfNanos]
  omega

/-- Moving back along nanoseconds finds the instant of the rank, or leaves the range at its
beginning. -/
theorem ofNanos?_before (nonneg : 0 ≤ length) (outside : ¬ (moment.isLeap ∧ length < 1000000000)) :
    (∃ floor, ofNanos? (moment.nanos - length) = some floor ∧
        floor.rank = moment.rankBefore length) ∨
      ofNanos? (moment.nanos - length) = none ∧
        ∀ other : Instant, moment.rankBefore length < other.rank := by
  rw [rankBefore, if_neg outside]
  cases found : ofNanos? (moment.nanos - length) with
  | some floor => exact .inl ⟨floor, rfl, rank_of_ofNanos? found⟩
  | none =>
    refine .inr ⟨rfl, fun other => rankOfNanos_lt ?_⟩
    -- back from an instant, the range is left at its beginning only
    have limit := moment.fraction_lt_two_seconds
    have finish := moment.le_last
    rw [ofNanos?_eq_none_iff] at found
    simp only [isLeap, decide_eq_true_eq, Instant.nanos] at outside found ⊢
    omega

/-- A span back from an instant is the instant of the rank, or there is none and the rank is below
those of all instants. -/
theorem sub?_before (moment : Instant) {span : Span} (nonneg : 0 ≤ span.nanos) :
    (∃ floor, moment.sub? span = some floor ∧ floor.rank = moment.rankBefore span.nanos) ∨
      moment.sub? span = none ∧ ∀ other : Instant, moment.rankBefore span.nanos < other.rank := by
  have negated : span.neg.nanos = -span.nanos := rfl
  by_cases within : moment.isLeap ∧ span.nanos < 1000000000
  · obtain ⟨leap, short⟩ := within
    have late : 1000000000 ≤ moment.fraction := by simpa [isLeap] using leap
    have bound := moment.fraction_lt
    have limit := moment.fraction_lt_two_seconds
    have moved : moment.sub? span =
        ofParts? moment.second ((moment.fraction : Int) + span.neg.nanos).toNat := by
      simp only [sub?, add?]
      rw [if_pos leap, if_neg (by omega), if_neg (by omega)]
    have inRange : ((moment.fraction : Int) + span.neg.nanos).toNat < fractionLimit moment.second :=
      Nat.lt_of_le_of_lt (by omega) bound
    refine .inl ⟨⟨moment.second, _, moment.first_le, moment.le_last, inRange⟩, ?_, ?_⟩
    · rw [moved]
      exact ofParts?_eq_some_iff.mpr ⟨rfl, rfl⟩
    · rw [rankBefore, if_pos ⟨leap, short⟩]
      simp only [rank]
      omega
  · have moved : moment.sub? span = ofNanos? (moment.nanos - span.nanos) := by
      have limit := moment.fraction_lt_two_seconds
      rw [Int.sub_eq_add_neg, ← negated]
      simp only [sub?, add?]
      split
      · next leap =>
        have long : ¬ span.nanos < 1000000000 := fun short => within ⟨leap, short⟩
        rw [if_neg (by omega), if_pos (by omega)]
      · rfl
    rw [moved]
    exact ofNanos?_before nonneg within

/-- A longer window starts no later. -/
theorem rankBefore_anti (moment : Instant) {length longer : Int} (le : length ≤ longer) :
    moment.rankBefore longer ≤ moment.rankBefore length := by
  have limit := moment.fraction_lt_two_seconds
  simp only [rankBefore, isLeap, decide_eq_true_eq]
  split
  · rw [if_pos (by omega)]
    omega
  · split
    · simp only [rankOfNanos, rank, Instant.nanos]
      omega
    · simp only [rankOfNanos]
      omega

/-- Outside leap seconds ranks compare as the nanoseconds do. -/
theorem rankBefore_le_iff (plain : moment.isLeap = false) (plainToo : other.isLeap = false) :
    moment.rankBefore length ≤ other.rank ↔ moment.nanos - length ≤ other.nanos := by
  rw [rankBefore, if_neg (by simp [plain])]
  simp only [isLeap, decide_eq_false_iff_not] at plainToo
  simp only [rankOfNanos, rank, Instant.nanos]
  omega

end Instant

/-! ## The tests -/

theorem withinTolerance_iff {last occurredOn : Instant} {tolerance : Span}
    (nonneg : 0 ≤ tolerance.nanos) :
    withinTolerance last occurredOn tolerance = true ↔
      occurredOn.rankBefore tolerance.nanos ≤ last.rank := by
  unfold withinTolerance
  rcases occurredOn.sub?_before nonneg with ⟨floor, found, same⟩ | ⟨none, below⟩
  · rw [found, ← same]
    exact decide_eq_true_iff
  · rw [none]
    exact iff_of_true rfl (Int.le_of_lt (below last))

/-- A wider tolerance takes no change for a new one that a narrower one takes for a duplicate. -/
theorem withinTolerance_mono {last occurredOn : Instant} {tolerance wider : Span}
    (nonneg : 0 ≤ tolerance.nanos) (le : tolerance.nanos ≤ wider.nanos)
    (within : withinTolerance last occurredOn tolerance = true) :
    withinTolerance last occurredOn wider = true := by
  rw [withinTolerance_iff nonneg] at within
  rw [withinTolerance_iff (Int.le_trans nonneg le)]
  exact Int.le_trans (occurredOn.rankBefore_anti le) within

theorem SensorSnapshot.isDuplicateStatus_mono {sensor : SensorSnapshot} {status : SensorStatus}
    {occurredOn : Instant} {tolerance wider : Span} (nonneg : 0 ≤ tolerance.nanos)
    (le : tolerance.nanos ≤ wider.nanos)
    (duplicate : sensor.isDuplicateStatus status occurredOn tolerance = true) :
    sensor.isDuplicateStatus status occurredOn wider = true := by
  simp only [isDuplicateStatus, Bool.and_eq_true, Option.any_eq_true] at duplicate ⊢
  obtain ⟨same, last, known, within⟩ := duplicate
  exact ⟨same, last, known, withinTolerance_mono nonneg le within⟩

theorem OwnerSnapshot.isDuplicate_mono {owner : OwnerSnapshot} {details : OwnerDetails}
    {occurredOn : Instant} {tolerance wider : Span} (nonneg : 0 ≤ tolerance.nanos)
    (le : tolerance.nanos ≤ wider.nanos)
    (duplicate : owner.isDuplicate details occurredOn tolerance = true) :
    owner.isDuplicate details occurredOn wider = true := by
  simp only [isDuplicate, Bool.and_eq_true] at duplicate ⊢
  exact ⟨duplicate.1, withinTolerance_mono nonneg le duplicate.2⟩

/-- A published entry is dropped when it was published before the retention, and never else. -/
theorem OutboxEntry.outlived_iff {entry : OutboxEntry} {processed : Instant}
    (published : entry.status = .published) (processedAt : entry.processedAt = some processed)
    (retention : Nat) (now : Instant) :
    entry.outlived retention now = true ↔ processed.rank < now.rankBefore retention := by
  have before (cutoff : Instant) :
      entry.publishedBefore cutoff = true ↔ processed.rank < cutoff.rank := by
    simp only [publishedBefore, published, processedAt, decide_true, Bool.true_and, Option.any_some]
    exact decide_eq_true_iff
  have nonneg : 0 ≤ (⟨retention⟩ : Span).nanos := Int.natCast_nonneg retention
  unfold outlived
  rcases now.sub?_before nonneg with ⟨cutoff, found, same⟩ | ⟨none, below⟩
  · rw [found, Option.any_some, before, same]
  · rw [none]
    exact iff_of_false Bool.false_ne_true (Int.not_lt.mpr (Int.le_of_lt (below processed)))

/-- A prune keeps a published entry exactly if it was not published before the retention. -/
theorem Tables.mem_prune_iff {entry : OutboxEntry} {processed : Instant}
    (published : entry.status = .published) (processedAt : entry.processedAt = some processed)
    (tables : Tables) (retention : Nat) (now : Instant) :
    entry ∈ (tables.prune retention now).2.outbox ↔
      entry ∈ tables.outbox ∧ ¬ processed.rank < now.rankBefore retention := by
  rw [(outbox_prune tables retention now).2, List.mem_filter, Bool.not_eq_true',
    ← Bool.not_eq_true, OutboxEntry.outlived_iff published processedAt]

/-! ## Policies -/

namespace StalenessPolicy

theorem tolerance_ofSpan {tolerance : Span} (nonneg : 0 ≤ tolerance.nanos)
    (le : tolerance.nanos ≤ (Span.seconds maxSeconds).nanos) :
    (ofSpan tolerance).tolerance = tolerance := by
  obtain ⟨nanos⟩ := tolerance
  simp only [ofSpan, Span.mk.injEq]
  simp only at nonneg le
  omega

theorem tolerance_ofSeconds {count : UInt64} (le : count.toNat ≤ maxSeconds) :
    (ofSeconds count).tolerance = .seconds count.toNat := by
  rw [ofSeconds, Nat.min_eq_left le]
  have bound : maxSeconds = 86400 := rfl
  refine tolerance_ofSpan ?_ ?_
  · simp only [Span.seconds]
    omega
  · simp only [Span.seconds]
    omega

end StalenessPolicy

/-! ## All windows -/

/-- The tests of windows decide as integers without bounds do, for all instants, tolerances that are
not negative, and retentions. A change is within a tolerance of an earlier one exactly when that is
not before the start of the window, so what is a duplicate under a tolerance is one under any wider
tolerance; and a prune keeps a published entry exactly when it was not published before the start of
the retention. Outside leap seconds this is the order of nanoseconds. A policy has a tolerance
between nothing and a day, and that of its argument if it lies there. -/
theorem windows_exact :
    (∀ (last occurredOn : Instant) (tolerance : Span), 0 ≤ tolerance.nanos →
      (withinTolerance last occurredOn tolerance = true ↔
        occurredOn.rankBefore tolerance.nanos ≤ last.rank) ∧
      (occurredOn.isLeap = false → last.isLeap = false →
        (withinTolerance last occurredOn tolerance = true ↔
          occurredOn.nanos - tolerance.nanos ≤ last.nanos)) ∧
      ∀ wider : Span, tolerance.nanos ≤ wider.nanos →
        (∀ (sensor : SensorSnapshot) status,
          sensor.isDuplicateStatus status occurredOn tolerance = true →
            sensor.isDuplicateStatus status occurredOn wider = true) ∧
        ∀ (owner : OwnerSnapshot) details, owner.isDuplicate details occurredOn tolerance = true →
          owner.isDuplicate details occurredOn wider = true) ∧
    (∀ (tables : Tables) (entry : OutboxEntry) (processed now : Instant) (retention : Nat),
      entry.status = .published → entry.processedAt = some processed →
      (entry ∈ (tables.prune retention now).2.outbox ↔
        entry ∈ tables.outbox ∧ ¬ processed.rank < now.rankBefore retention) ∧
      (now.isLeap = false → processed.isLeap = false →
        (entry ∈ (tables.prune retention now).2.outbox ↔
          entry ∈ tables.outbox ∧ ¬ processed.nanos < now.nanos - retention))) ∧
    (∀ tolerance : Span,
      0 ≤ (StalenessPolicy.ofSpan tolerance).tolerance.nanos ∧
      (StalenessPolicy.ofSpan tolerance).tolerance.nanos ≤ (Span.seconds 86400).nanos ∧
      (0 ≤ tolerance.nanos → tolerance.nanos ≤ (Span.seconds 86400).nanos →
        (StalenessPolicy.ofSpan tolerance).tolerance = tolerance)) ∧
    ∀ count : UInt64,
      0 ≤ (StalenessPolicy.ofSeconds count).tolerance.nanos ∧
      (StalenessPolicy.ofSeconds count).tolerance.nanos ≤ (Span.seconds 86400).nanos ∧
      (count.toNat ≤ 86400 →
        (StalenessPolicy.ofSeconds count).tolerance = .seconds count.toNat) := by
  refine ⟨?_, ?_, ?_, ?_⟩
  · intro last occurredOn tolerance nonneg
    refine ⟨withinTolerance_iff nonneg, fun plain plainToo => ?_, fun wider le => ⟨?_, ?_⟩⟩
    · rw [withinTolerance_iff nonneg, Instant.rankBefore_le_iff plain plainToo]
    · exact fun sensor status => SensorSnapshot.isDuplicateStatus_mono nonneg le
    · exact fun owner details => OwnerSnapshot.isDuplicate_mono nonneg le
  · intro tables entry processed now retention published processedAt
    have kept := Tables.mem_prune_iff published processedAt tables retention now
    refine ⟨kept, fun plain plainToo => ?_⟩
    rw [kept, Int.not_lt, Int.not_lt, Instant.rankBefore_le_iff plain plainToo]
  · intro tolerance
    exact ⟨StalenessPolicy.nonneg _, StalenessPolicy.le_day _, StalenessPolicy.tolerance_ofSpan⟩
  · intro count
    exact ⟨StalenessPolicy.nonneg _, StalenessPolicy.le_day _, StalenessPolicy.tolerance_ofSeconds⟩

/-- The first instant of all. -/
def earliest : Instant := ⟨Instant.first, 0, by decide, by decide, by decide⟩

/-- The middle of the leap second that ends the first minute of 1970. -/
def leapMiddle : Instant := ⟨59, 1500000000, by decide, by decide, by decide⟩

/-- The longest tolerance reaches beyond the first instant, and half a second back from the middle
of a leap second is its beginning. -/
theorem earliest_within_longest :
    withinTolerance earliest .epoch ⟨Span.longest⟩ = true ∧
      withinTolerance leapMiddle leapMiddle (.millis 500) = true ∧
      withinTolerance ⟨59, 999999999, by decide, by decide, by decide⟩ leapMiddle (.millis 500) =
        false := by
  obtain ⟨tolerances, -⟩ := windows_exact
  refine ⟨?_, ?_, ?_⟩
  · exact (tolerances _ _ _ (by decide)).1.mpr (by decide)
  · exact (tolerances _ _ _ (by decide)).1.mpr (by decide)
  · exact Bool.eq_false_iff.mpr (mt (tolerances _ _ _ (by decide)).1.mp (by decide))

end Fieldwatch
