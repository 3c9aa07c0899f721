import Fieldwatch.Time.Calendar

/-!
# Instants

A moment in UTC within the years -262143 to 262142: a whole second counted from 1 January 1970, and
nanoseconds after its start. The last second of any minute may be followed by a leap second, which
belongs to it and is the second half of a fraction that then runs up to two seconds. Moving by a
span may leave the range, and is then refused.
-/
namespace Fieldwatch

/-- The first second of the year -262143. -/
def Instant.first : Int := -8334601228800

/-- The last second of the year 262142. -/
def Instant.last : Int := 8210266876799

/-- How many nanoseconds may pass before the next second starts: two seconds' worth where a leap
second may follow. -/
def Instant.fractionLimit (second : Int) : Nat :=
  if second % 60 = 59 then 2000000000 else 1000000000

/-- A moment in UTC: a second counted from 1 January 1970, and nanoseconds after its start. -/
structure Instant where
  second : Int
  fraction : Nat
  first_le : Instant.first ≤ second
  le_last : second ≤ Instant.last
  fraction_lt : fraction < Instant.fractionLimit second
  deriving DecidableEq

/-- A length of time in nanoseconds, which may be negative. -/
structure Span where
  nanos : Int
  deriving DecidableEq, Repr

namespace Span

def seconds (count : Int) : Span := ⟨count * 1000000000⟩

def millis (count : Int) : Span := ⟨count * 1000000⟩

def zero : Span := ⟨0⟩

/-- The same length in the other direction. -/
def neg (span : Span) : Span := ⟨-span.nanos⟩

/-- Whole milliseconds, cut toward zero. -/
def toMillis (span : Span) : Int := Int.tdiv span.nanos 1000000

end Span

namespace Instant

/-- The instant in a second, some nanoseconds after its start, if there is one. -/
def ofParts? (second : Int) (fraction : Nat) : Option Instant :=
  if inRange : first ≤ second ∧ second ≤ last ∧ fraction < fractionLimit second then
    some ⟨second, fraction, inRange.1, inRange.2.1, inRange.2.2⟩
  else none

/-- The instant a number of nanoseconds from 1 January 1970, if it is in range. No leap second has
such a number of its own. -/
def ofNanos? (nanos : Int) : Option Instant :=
  ofParts? (nanos / 1000000000) (nanos % 1000000000).toNat

/-- Nanoseconds from 1 January 1970; a leap second shares them with the second after it. -/
def nanos (moment : Instant) : Int := moment.second * 1000000000 + moment.fraction

/-- Whether an instant lies within a leap second. -/
def isLeap (moment : Instant) : Bool := 1000000000 ≤ moment.fraction

/-- Midnight of 1 January 1970. -/
def epoch : Instant := ⟨0, 0, by decide, by decide, by decide⟩

instance : Inhabited Instant := ⟨epoch⟩

/-! ## Order -/

/-- The place of an instant in the order: a leap second comes after all of the second that it
belongs to, and before the next one. -/
def rank (moment : Instant) : Int := moment.second * 2000000000 + moment.fraction

instance : LT Instant := ⟨fun a b => a.rank < b.rank⟩
instance : LE Instant := ⟨fun a b => a.rank ≤ b.rank⟩
instance (a b : Instant) : Decidable (a < b) := inferInstanceAs (Decidable (a.rank < b.rank))
instance (a b : Instant) : Decidable (a ≤ b) := inferInstanceAs (Decidable (a.rank ≤ b.rank))

theorem fraction_lt_two_seconds (moment : Instant) : moment.fraction < 2000000000 := by
  have bound := moment.fraction_lt
  unfold fractionLimit at bound
  split at bound <;> omega

theorem rank_inj {a b : Instant} : a.rank = b.rank ↔ a = b := by
  constructor
  · intro same
    have boundA := a.fraction_lt_two_seconds
    have boundB := b.fraction_lt_two_seconds
    obtain ⟨secondA, fractionA, _, _, _⟩ := a
    obtain ⟨secondB, fractionB, _, _, _⟩ := b
    simp only [rank] at same boundA boundB
    obtain rfl : secondA = secondB := by omega
    obtain rfl : fractionA = fractionB := by omega
    rfl
  · intro same; rw [same]

theorem lt_iff {a b : Instant} :
    a < b ↔ a.second < b.second ∨ a.second = b.second ∧ a.fraction < b.fraction := by
  have boundA := a.fraction_lt_two_seconds
  have boundB := b.fraction_lt_two_seconds
  change a.rank < b.rank ↔ _
  simp only [rank]
  omega

/-! ## Moving by a span -/

/-- The instant a span later, if it is in range. From within a leap second, a span that ends before
the next second starts and is shorter than a second moves the fraction alone; one that goes on
counts from the second that the leap second belongs to, and one that goes back from the second
after it. -/
def add? (moment : Instant) (span : Span) : Option Instant :=
  let moved := moment.nanos + span.nanos
  if moment.isLeap then
    let fraction := moment.fraction + span.nanos
    if 2000000000 ≤ fraction then ofNanos? (moved - 1000000000)
    else if span.nanos ≤ -1000000000 then ofNanos? moved
    else ofParts? moment.second fraction.toNat
  else ofNanos? moved

/-- The instant a span earlier, if it is in range. -/
def sub? (moment : Instant) (span : Span) : Option Instant := moment.add? span.neg

theorem ofParts?_eq_some_iff {second : Int} {fraction : Nat} {moment : Instant} :
    ofParts? second fraction = some moment ↔
      moment.second = second ∧ moment.fraction = fraction := by
  unfold ofParts?
  split
  · next inRange =>
    constructor
    · intro same; cases same; exact ⟨rfl, rfl⟩
    · rintro ⟨rfl, rfl⟩; rfl
  · next outside =>
    constructor
    · intro same; cases same
    · rintro ⟨rfl, rfl⟩
      exact absurd ⟨moment.first_le, moment.le_last, moment.fraction_lt⟩ outside

theorem ofParts?_eq_none_iff {second : Int} {fraction : Nat} :
    ofParts? second fraction = none ↔
      second < first ∨ last < second ∨ fractionLimit second ≤ fraction := by
  unfold ofParts?
  split <;> simp <;> omega

theorem ofNanos?_eq_some_iff {nanos : Int} {moment : Instant} :
    ofNanos? nanos = some moment ↔ moment.nanos = nanos ∧ moment.isLeap = false := by
  unfold ofNanos?
  rw [ofParts?_eq_some_iff]
  simp only [Instant.nanos, isLeap, decide_eq_false_iff_not]
  omega

theorem ofNanos?_eq_none_iff {nanos : Int} :
    ofNanos? nanos = none ↔ nanos / 1000000000 < first ∨ last < nanos / 1000000000 := by
  unfold ofNanos?
  rw [ofParts?_eq_none_iff]
  have bound : (nanos % 1000000000).toNat < 1000000000 := by omega
  unfold fractionLimit
  split <;> omega

/-- An instant a span earlier is no later, unless the span is negative. -/
theorem sub?_le {moment floor : Instant} {span : Span} (nonneg : 0 ≤ span.nanos)
    (found : moment.sub? span = some floor) : floor ≤ moment := by
  have negated : span.neg.nanos = -span.nanos := rfl
  have bound := moment.fraction_lt_two_seconds
  have floorBound := floor.fraction_lt_two_seconds
  change floor.rank ≤ moment.rank
  simp only [sub?, add?, isLeap, decide_eq_true_eq] at found
  split at found
  · rw [if_neg (by omega)] at found
    split at found
    · simp only [ofNanos?_eq_some_iff, Instant.nanos, isLeap, decide_eq_false_iff_not] at found
      simp only [rank]; omega
    · simp only [ofParts?_eq_some_iff] at found
      simp only [rank]; omega
  · simp only [ofNanos?_eq_some_iff, Instant.nanos, isLeap, decide_eq_false_iff_not] at found
    simp only [rank]; omega

/-! ## Written form -/

/-- A number padded with zeros in front to a given width. -/
def padded (width : Nat) (number : Nat) : String :=
  let chars := Nat.toDigits 10 number
  String.ofList (List.replicate (width - chars.length) '0' ++ chars)

/-- A year: four digits from 0 to 9999, else a sign and at least four digits. -/
def yearText (year : Int) : String :=
  if 0 ≤ year && year ≤ 9999 then padded 4 year.toNat
  else (if year < 0 then "-" else "+") ++ padded 4 year.natAbs

/-- The fraction of a second: none, or a point and the fewest of three, six or nine digits. -/
def fractionText (nanos : Nat) : String :=
  if nanos = 0 then ""
  else if nanos % 1000000 = 0 then "." ++ padded 3 (nanos / 1000000)
  else if nanos % 1000 = 0 then "." ++ padded 6 (nanos / 1000)
  else "." ++ padded 9 nanos

/-- The written form of an instant, in UTC; a leap second is the sixtieth of its minute. -/
def text (moment : Instant) : String :=
  let date := Time.Date.ofDays (moment.second / 86400)
  let ofDay := (moment.second % 86400).toNat
  let ofMinute := ofDay % 60 + moment.fraction / 1000000000
  yearText date.year ++ "-" ++ padded 2 date.month ++ "-" ++ padded 2 date.day ++ "T"
    ++ padded 2 (ofDay / 3600) ++ ":" ++ padded 2 (ofDay / 60 % 60) ++ ":" ++ padded 2 ofMinute
    ++ fractionText (moment.fraction % 1000000000) ++ "Z"

end Instant
end Fieldwatch
