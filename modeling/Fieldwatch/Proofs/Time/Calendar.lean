import Fieldwatch.Time.Instant

/-!
# Days and dates

Counting the days of a date undoes dating a day, and the date of a day exists. An era of four
hundred years has 146097 days; the year of one of its days is found by a formula that grows with
the day and is right on the first and the last day of each year.
-/
namespace Fieldwatch.Time

/-! ## Years of an era -/

def firstDay (year : Nat) : Nat := 365 * year + year / 4 - year / 100

/-- The last day of a year of an era; the last year of all has a leap day. -/
def lastDay (year : Nat) : Nat := if year = 399 then 146096 else firstDay (year + 1) - 1

/-- The year of an era that a day is dated to. -/
def yearOfDay (day : Nat) : Nat := (day - day / 1460 + day / 36524 - day / 146096) / 365

/-- A year has at most 366 days. -/
theorem lastDay_le (year : Nat) : lastDay year ≤ firstDay year + 365 := by
  unfold lastDay firstDay
  split <;> omega

theorem le_yearOfDay_firstDay : ∀ year < 400, year ≤ yearOfDay (firstDay year) := by
  decide +kernel

theorem yearOfDay_lastDay_le : ∀ year < 400, yearOfDay (lastDay year) ≤ year := by
  decide +kernel

theorem yearOfDay_succ {day : Nat} (small : day + 1 < 146097) :
    yearOfDay day ≤ yearOfDay (day + 1) := by
  unfold yearOfDay
  refine Nat.div_le_div_right ?_
  have once : (day + 1) / 146096 = 0 ∨ (day + 1) / 146096 = 1 := by omega
  omega

theorem yearOfDay_mono {first last : Nat} (ordered : first ≤ last) (small : last < 146097) :
    yearOfDay first ≤ yearOfDay last := by
  induction last with
  | zero =>
    obtain rfl : first = 0 := by omega
    exact Nat.le_refl _
  | succ last ih =>
    by_cases here : first = last + 1
    · exact Nat.le_of_eq (congrArg yearOfDay here)
    · exact Nat.le_trans (ih (by omega) (by omega)) (yearOfDay_succ small)

theorem yearOfDay_lt {day : Nat} (small : day < 146097) : yearOfDay day < 400 := by
  unfold yearOfDay
  omega

/-- A day lies in the year that it is dated to. -/
theorem yearOfDay_spec {day : Nat} (small : day < 146097) :
    firstDay (yearOfDay day) ≤ day ∧ day ≤ lastDay (yearOfDay day) := by
  have inEra := yearOfDay_lt small
  constructor
  · refine Nat.not_lt.mp fun early => ?_
    -- the year before ends no earlier than this day, and its last day is dated to it
    have positive : 0 < yearOfDay day := by
      refine Nat.pos_of_ne_zero fun first => ?_
      simp [first, firstDay] at early
    have previous := yearOfDay_lastDay_le (yearOfDay day - 1) (by omega)
    have ends : lastDay (yearOfDay day - 1) = firstDay (yearOfDay day) - 1 := by
      rw [lastDay, if_neg (by omega), Nat.sub_add_cancel positive]
    have inside : firstDay (yearOfDay day) - 1 < 146097 := by unfold firstDay; omega
    have grows : yearOfDay day ≤ yearOfDay (lastDay (yearOfDay day - 1)) :=
      yearOfDay_mono (by omega) (by omega)
    omega
  · refine Nat.not_lt.mp fun late => ?_
    -- the year after begins no later than this day, and its first day is dated to it
    by_cases last : yearOfDay day = 399
    · rw [lastDay, if_pos last] at late
      omega
    · rw [lastDay, if_neg last] at late
      have next := le_yearOfDay_firstDay (yearOfDay day + 1) (by omega)
      have grows : yearOfDay (firstDay (yearOfDay day + 1)) ≤ yearOfDay day :=
        yearOfDay_mono (by omega) small
      omega

/-! ## Dates -/

/-- The parts in which a day is dated: its era, the year and the day of that year, both counted
from March. -/
theorem parts_of_day (days : Int) :
    ∃ (era : Int) (year dayOfYear : Nat), year < 400 ∧
      dayOfYear + firstDay year ≤ lastDay year ∧
      days + 719468 = era * 146097 + firstDay year + dayOfYear ∧
      Date.ofDays days =
        let shifted := (5 * dayOfYear + 2) / 153
        let month := if shifted < 10 then shifted + 3 else shifted - 9
        ⟨year + era * 400 + if month ≤ 2 then 1 else 0, month,
          dayOfYear - (153 * shifted + 2) / 5 + 1⟩ := by
  obtain ⟨day, dayEq⟩ : ∃ day : Nat, (days + 719468) % 146097 = day :=
    ⟨((days + 719468) % 146097).toNat, by omega⟩
  have small : day < 146097 := by omega
  obtain ⟨starts, ends⟩ := yearOfDay_spec small
  refine ⟨(days + 719468) / 146097, yearOfDay day, day - firstDay (yearOfDay day),
    yearOfDay_lt small, by omega, by omega, ?_⟩
  have yearEq : ((day : Int) - day / 1460 + day / 36524 - day / 146096) / 365 = yearOfDay day := by
    unfold yearOfDay
    omega
  have dayOfYearEq : (day : Int) -
      (365 * (yearOfDay day : Int) + (yearOfDay day : Int) / 4 - (yearOfDay day : Int) / 100) =
        (day - firstDay (yearOfDay day) : Nat) := by
    unfold firstDay at starts ⊢
    omega
  simp only [Date.ofDays, dayEq, yearEq, dayOfYearEq]
  generalize day - firstDay (yearOfDay day) = dayOfYear
  have shiftedEq : (5 * (dayOfYear : Int) + 2) / 153 = ((5 * dayOfYear + 2) / 153 : Nat) := by
    omega
  have reached : (153 * ((5 * dayOfYear + 2) / 153) + 2) / 5 ≤ dayOfYear := by omega
  rw [shiftedEq]
  generalize (5 * dayOfYear + 2) / 153 = shifted at reached
  simp only [Date.mk.injEq]
  refine ⟨?_, ?_, ?_⟩
  · split <;> split <;> split <;> omega
  · split <;> split <;> omega
  · omega

/-- Counting the days of the date of a day gives the day. -/
theorem toDays_ofDays (days : Int) : (Date.ofDays days).toDays = days := by
  obtain ⟨era, year, dayOfYear, inEra, inYear, total, dated⟩ := parts_of_day days
  have length := lastDay_le year
  have months : (5 * dayOfYear + 2) / 153 < 12 := by omega
  have reached : (153 * ((5 * dayOfYear + 2) / 153) + 2) / 5 ≤ dayOfYear := by omega
  simp only [dated]
  generalize (5 * dayOfYear + 2) / 153 = shifted at months reached
  have century : year / 100 ≤ 365 * year := by omega
  unfold firstDay at total
  have eraEq : ((year : Int) + era * 400) / 400 = era := by omega
  have yearEq : ((year : Int) + era * 400) % 400 = year := by omega
  by_cases autumn : shifted < 10
  · have shiftedEq : ((shifted + 3 : Nat) + 9 : Int) % 12 = shifted := by omega
    simp only [Date.toDays, if_pos autumn, if_neg (show ¬ shifted + 3 ≤ 2 by omega), Int.add_zero,
      eraEq, yearEq, shiftedEq]
    omega
  · have shiftedEq : ((shifted - 9 : Nat) + 9 : Int) % 12 = shifted := by omega
    simp only [Date.toDays, if_neg autumn, if_pos (show shifted - 9 ≤ 2 by omega),
      Int.add_sub_cancel, eraEq, yearEq, shiftedEq]
    omega

theorem exists_ofDays (days : Int) : (Date.ofDays days).exists = true := by
  obtain ⟨era, year, dayOfYear, inEra, inYear, total, dated⟩ := parts_of_day days
  have length := lastDay_le year
  have months : (5 * dayOfYear + 2) / 153 < 12 := by omega
  have february : (5 * dayOfYear + 2) / 153 = 11 → dayOfYear - 337 + 1 ≤
      if isLeap (year + era * 400 + 1) then 29 else 28 := by
    intro eleven
    split
    · omega
    · next common =>
      simp only [isLeap, Bool.and_eq_true, Bool.or_eq_true, decide_eq_true_eq, ne_eq,
        decide_not, Bool.not_eq_true', decide_eq_false_iff_not, not_and, not_or] at common
      unfold lastDay firstDay at inYear
      split at inYear <;> omega
  rw [dated]
  generalize shiftedEq : (5 * dayOfYear + 2) / 153 = shifted at months february
  by_cases eleven : shifted = 11
  · subst eleven
    simpa [Date.exists, daysInMonth] using february rfl
  · have others : shifted = 0 ∨ shifted = 1 ∨ shifted = 2 ∨ shifted = 3 ∨ shifted = 4 ∨
        shifted = 5 ∨ shifted = 6 ∨ shifted = 7 ∨ shifted = 8 ∨ shifted = 9 ∨ shifted = 10 := by
      omega
    rcases others with rfl | rfl | rfl | rfl | rfl | rfl | rfl | rfl | rfl | rfl | rfl <;>
      simp [Date.exists, daysInMonth] <;> omega

/-- The date of a day has a month between 1 and 12 and a day of at most two digits. -/
theorem ofDays_bounds (days : Int) :
    1 ≤ (Date.ofDays days).month ∧ (Date.ofDays days).month ≤ 12 ∧ (Date.ofDays days).day ≤ 31 := by
  obtain ⟨era, year, dayOfYear, inEra, inYear, total, dated⟩ := parts_of_day days
  have length := lastDay_le year
  have months : (5 * dayOfYear + 2) / 153 < 12 := by omega
  rw [dated]
  dsimp only
  split <;> omega

/-- The days of all instants lie in the years that instants may have. -/
theorem year_ofDays_bounds {days : Int} (low : Instant.first ≤ days * 86400 + 86399)
    (high : days * 86400 ≤ Instant.last) :
    -262143 ≤ (Date.ofDays days).year ∧ (Date.ofDays days).year ≤ 262142 := by
  obtain ⟨era, year, dayOfYear, inEra, inYear, total, dated⟩ := parts_of_day days
  have length := lastDay_le year
  have months : (5 * dayOfYear + 2) / 153 < 12 := by omega
  unfold firstDay at total
  simp only [Instant.first, Instant.last] at low high
  rw [dated]
  dsimp only
  constructor
  · split <;> split <;> omega
  · have before : era ≤ 655 := by omega
    by_cases last : era = 655
    · subst last
      split <;> split <;> omega
    · split <;> split <;> omega

end Fieldwatch.Time
