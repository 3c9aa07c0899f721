import Mathlib.Algebra.Group.Nat.Defs
import Fieldwatch.Proofs.Json.RoundTrip
import Fieldwatch.Proofs.Time.Calendar

/-!
# Instants as text

The written form of an instant is read back as the same instant, leap seconds and years beyond four
digits included. Each part of the form is read off the front of what is left, and stops where the
next mark stands.
-/
namespace Fieldwatch.Time

open Instant (padded)

/-! ## Digits -/

/-- Whether every character is a decimal digit. -/
def AllDigits (chars : List Char) : Prop := ∀ c ∈ chars, c.isDigit = true

/-- Whether a text goes on with something that is no digit. -/
def EndsNumber (chars : List Char) : Prop := ∀ c ∈ chars.head?, c.isDigit = false

theorem not_isBlank_of_isDigit {c : Char} (digit : c.isDigit = true) : Text.isBlank c = false := by
  have range : 48 ≤ c.toNat ∧ c.toNat ≤ 57 := by
    simpa [Char.isDigit, UInt32.le_iff_toNat_le] using digit
  simp [Text.isBlank]
  omega

theorem toList_padded (width number : Nat) :
    (padded width number).toList =
      List.replicate (width - (Nat.toDigits 10 number).length) '0' ++ Nat.toDigits 10 number := by
  simp [padded]

theorem allDigits_padded (width number : Nat) : AllDigits (padded width number).toList := by
  intro c member
  rw [toList_padded] at member
  rcases List.mem_append.mp member with zero | digit
  · rw [List.eq_of_mem_replicate zero]
    rfl
  · exact Nat.isDigit_of_mem_toDigits (by decide) (by decide) digit

/-- Zeros in front do not change the number. -/
theorem digitsValue_padded (width number : Nat) :
    digitsValue (padded width number).toList = number := by
  have same : digitsValue (padded width number).toList =
      Nat.ofDigitChars 10 (padded width number).toList 0 := by
    simp only [digitsValue, Nat.ofDigitChars_eq_foldl, Nat.mul_comm 10]
    rfl
  rw [same, toList_padded, Nat.ofDigitChars_append, Nat.ofDigitChars_replicate_zero, Nat.mul_zero,
    Nat.ofDigitChars_ten_toDigits]

theorem length_padded {width number : Nat} (positive : 0 < width) (fits : number < 10 ^ width) :
    (padded width number).toList.length = width := by
  have short := (Nat.length_toDigits_le_iff (by decide : 1 < 10) positive).mpr fits
  rw [toList_padded, List.length_append, List.length_replicate]
  omega

theorem padded_ne_nil (width number : Nat) : (padded width number).toList ≠ [] := by
  rw [toList_padded]
  simp

/-- The digits in front of a text end where it goes on with something else. -/
theorem leadingDigits_append {digits rest : List Char} (all : AllDigits digits)
    (ends : EndsNumber rest) : leadingDigits (digits ++ rest) = digits := by
  unfold leadingDigits
  rw [List.takeWhile_append_of_pos all]
  cases rest with
  | nil => simp
  | cons c rest => simp [ends c rfl]

/-- A row of as many digits as may be read is read as a number off the front of a text. -/
theorem number?_append {most : Nat} {digits : List Char} (rest : List Char)
    (all : AllDigits digits) (present : digits ≠ []) (full : digits.length = most) :
    number? most (digits ++ rest) = some (digitsValue digits, rest) := by
  have front : Text.trimFront (digits ++ rest) = digits ++ rest := by
    cases digits with
    | nil => exact absurd rfl present
    | cons c digits =>
      simp [Text.trimFront, not_isBlank_of_isDigit (all c List.mem_cons_self)]
  have taken : leadingDigits ((digits ++ rest).take most) = digits := by
    have whole : leadingDigits (digits ++ []) = digits :=
      leadingDigits_append all (by rintro c ⟨⟩)
    rw [List.take_left' full]
    simpa using whole
  simp only [number?, front, taken]
  cases digits with
  | nil => exact absurd rfl present
  | cons c digits => simp

theorem number?_padded {width number : Nat} (rest : List Char) (positive : 0 < width)
    (fits : number < 10 ^ width) :
    number? width ((padded width number).toList ++ rest) = some (number, rest) := by
  rw [number?_append rest (allDigits_padded width number) (padded_ne_nil width number)
    (length_padded positive fits), digitsValue_padded]

/-- A mark that is not blank is read off the front of a text. -/
theorem mark?_cons {mark : Char} (rest : List Char) (visible : Text.isBlank mark = false) :
    mark? mark (mark :: rest) = some rest := by
  simp [mark?, Text.trimFront, visible]

/-! ## Parts -/

/-- After a sign all digits belong to the year. -/
theorem year?_signed (negative : Bool) (number : Nat) {rest : List Char} (ends : EndsNumber rest) :
    year? ((if negative then '-' else '+') :: ((padded 4 number).toList ++ rest)) =
      some (if negative then -(number : Int) else number, rest) := by
  have taken : leadingDigits ((padded 4 number).toList ++ rest) = (padded 4 number).toList :=
    leadingDigits_append (allDigits_padded 4 number) ends
  have value := digitsValue_padded 4 number
  have present := padded_ne_nil 4 number
  generalize (padded 4 number).toList = digits at taken value present
  cases digits with
  | nil => exact absurd rfl present
  | cons c digits =>
    rw [List.cons_append] at taken ⊢
    cases negative
    · have front : Text.trimFront ('+' :: c :: (digits ++ rest)) = '+' :: c :: (digits ++ rest) :=
        rfl
      simp [year?, front, taken, value]
    · have front : Text.trimFront ('-' :: c :: (digits ++ rest)) = '-' :: c :: (digits ++ rest) :=
        rfl
      simp [year?, front, taken, value]

/-- A year is read up to the mark after it. -/
theorem year?_yearText (year : Int) {rest : List Char} (ends : EndsNumber rest) :
    year? ((Instant.yearText year).toList ++ rest) = some (year, rest) := by
  unfold Instant.yearText
  split
  · next plain =>
    obtain ⟨nonneg, small⟩ : 0 ≤ year ∧ year ≤ 9999 := by simpa using plain
    have number := number?_padded rest (by decide : 0 < 4) (show year.toNat < 10 ^ 4 by omega)
    have digits := allDigits_padded 4 year.toNat
    have present := padded_ne_nil 4 year.toNat
    generalize (padded 4 year.toNat).toList = chars at number digits present
    cases chars with
    | nil => exact absurd rfl present
    | cons c chars =>
      have digit := digits c List.mem_cons_self
      have front : Text.trimFront (c :: chars ++ rest) = c :: (chars ++ rest) := by
        simp [Text.trimFront, not_isBlank_of_isDigit digit]
      simp only [year?, front]
      split
      · next same => rw [(List.cons.inj same).1] at digit; cases digit
      · next same => rw [(List.cons.inj same).1] at digit; cases digit
      · rw [← List.cons_append, number]
        simp [Int.toNat_of_nonneg nonneg]
  · next wide =>
    have sign := year?_signed (decide (year < 0)) year.natAbs ends
    by_cases negative : year < 0
    · have value : -(year.natAbs : Int) = year := by omega
      simp only [negative, decide_true, if_true, value] at sign
      rw [if_pos negative, String.toList_append]
      exact sign
    · have value : (year.natAbs : Int) = year := by omega
      simp only [negative, decide_false, Bool.false_eq_true, if_false, value] at sign
      rw [if_neg negative, String.toList_append]
      exact sign

/-- Up to nine digits after the point count as so many places of a nanosecond. -/
theorem fraction?_padded (width number : Nat) {rest : List Char} (ends : EndsNumber rest)
    (positive : 0 < width) (few : width ≤ 9) (fits : number < 10 ^ width) :
    fraction? ('.' :: ((padded width number).toList ++ rest)) =
      some (number * 10 ^ (9 - width), rest) := by
  have taken : leadingDigits ((padded width number).toList ++ rest) =
      (padded width number).toList := leadingDigits_append (allDigits_padded width number) ends
  have value := digitsValue_padded width number
  have length := length_padded positive fits
  have present := padded_ne_nil width number
  generalize (padded width number).toList = digits at taken value length present
  have counted : digits.take 9 = digits := List.take_of_length_le (by omega)
  have dropped : (digits ++ rest).drop width = rest := by simp [← length]
  cases digits with
  | nil => exact absurd rfl present
  | cons c digits =>
    rw [List.cons_append] at taken dropped ⊢
    simp [fraction?, taken, counted, value, length, dropped]

/-- A fraction is read up to the mark after it. -/
theorem fraction?_fractionText {nanos : Nat} {rest : List Char} (small : nanos < 1000000000)
    (ends : EndsNumber rest) (mark : rest.head? ≠ some '.') :
    fraction? ((Instant.fractionText nanos).toList ++ rest) = some (nanos, rest) := by
  unfold Instant.fractionText
  split
  · next none =>
    subst none
    unfold fraction?
    split
    · next same => simp [show rest = '.' :: _ from same] at mark
    · rfl
  · split
    · next millis =>
      have read := fraction?_padded 3 (nanos / 1000000) ends (by decide) (by decide) (by omega)
      rw [show nanos / 1000000 * 10 ^ (9 - 3) = nanos by omega] at read
      simpa using read
    · split
      · next micros =>
        have read := fraction?_padded 6 (nanos / 1000) ends (by decide) (by decide) (by omega)
        rw [show nanos / 1000 * 10 ^ (9 - 6) = nanos by omega] at read
        simpa using read
      · have read := fraction?_padded 9 nanos ends (by decide) (by decide) small
        rw [show nanos * 10 ^ (9 - 9) = nanos by omega] at read
        simpa using read

/-! ## Whole forms -/

/-- The written form, its parts in their order. -/
theorem toList_text (moment : Instant) :
    let date := Date.ofDays (moment.second / 86400)
    let ofDay := (moment.second % 86400).toNat
    moment.text.toList =
      (Instant.yearText date.year).toList ++ '-' :: ((padded 2 date.month).toList ++ '-' ::
        ((padded 2 date.day).toList ++ 'T' :: ((padded 2 (ofDay / 3600)).toList ++ ':' ::
        ((padded 2 (ofDay / 60 % 60)).toList ++ ':' ::
        ((padded 2 (ofDay % 60 + moment.fraction / 1000000000)).toList ++
        ((Instant.fractionText (moment.fraction % 1000000000)).toList ++ ['Z'])))))) := by
  simp [Instant.text]

/-- A date is read up to the mark after it. -/
theorem date?_parts {year : Int} {month day : Nat} (rest : List Char) (shortMonth : month < 100)
    (shortDay : day < 100) :
    date? ((Instant.yearText year).toList ++ '-' :: ((padded 2 month).toList ++ '-' ::
      ((padded 2 day).toList ++ rest))) = some (⟨year, month, day⟩, rest) := by
  have ends : EndsNumber ('-' :: ((padded 2 month).toList ++ '-' ::
      ((padded 2 day).toList ++ rest))) := by
    rintro c ⟨⟩
    rfl
  simp only [date?, Option.bind_eq_bind, Option.pure_def]
  rw [year?_yearText year ends, Option.bind_some, mark?_cons _ rfl, Option.bind_some,
    number?_padded _ (by decide) shortMonth, Option.bind_some, mark?_cons _ rfl, Option.bind_some,
    number?_padded _ (by decide) shortDay, Option.bind_some]

/-- A time of day is read up to the mark after it; a sixtieth second belongs to the one before. -/
theorem timeOfDay?_parts (hour minute second nanos : Nat) {rest : List Char} (hours : hour ≤ 23)
    (minutes : minute ≤ 59) (seconds : second ≤ 60) (small : nanos < 1000000000)
    (ends : EndsNumber rest) (mark : rest.head? ≠ some '.') :
    timeOfDay? ((padded 2 hour).toList ++ ':' :: ((padded 2 minute).toList ++ ':' ::
        ((padded 2 second).toList ++ ((Instant.fractionText nanos).toList ++ rest)))) =
      some (((hour * 60 + minute) * 60 + min second 59,
        (second - 59) * 1000000000 + nanos), rest) := by
  simp only [timeOfDay?, Option.bind_eq_bind, Option.pure_def]
  rw [number?_padded _ (by decide) (by omega), Option.bind_some, mark?_cons _ rfl,
    Option.bind_some, number?_padded _ (by decide) (by omega), Option.bind_some,
    mark?_cons _ rfl, Option.bind_some, number?_padded _ (by decide) (by omega), Option.bind_some,
    fraction?_fractionText small ends mark, Option.bind_some,
    if_pos (by simp [hours, minutes, seconds])]

/-- A date and a time of day in UTC make an instant. -/
theorem instant?_parts {text : String} {date : Date} {chars : List Char} {ofDay fraction : Nat}
    (dated : date? text.toList = some (date, 'T' :: chars))
    (timed : timeOfDay? chars = some ((ofDay, fraction), ['Z']))
    (found : date.exists = true) (low : -262143 ≤ date.year) (high : date.year ≤ 262142) :
    instant? text = Instant.ofParts? (date.toDays * 86400 + ofDay) fraction := by
  have zone : offset? (Text.trimFront ['Z']) = some (0, []) := rfl
  have blank : Text.trimFront [] = [] := rfl
  simp [instant?, dated, timed, zone, found, low, high, blank]

/-- An instant is read back from its written form. -/
theorem instant?_text (moment : Instant) : instant? moment.text = some moment := by
  have bound := moment.fraction_lt
  have twoSeconds := moment.fraction_lt_two_seconds
  have low := moment.first_le
  have high := moment.le_last
  have leap : moment.second % 60 = 59 ∨ moment.fraction < 1000000000 := by
    unfold Instant.fractionLimit at bound
    split at bound <;> omega
  obtain ⟨-, monthHigh, dayHigh⟩ := ofDays_bounds (moment.second / 86400)
  obtain ⟨yearLow, yearHigh⟩ : -262143 ≤ (Date.ofDays (moment.second / 86400)).year ∧
      (Date.ofDays (moment.second / 86400)).year ≤ 262142 :=
    year_ofDays_bounds (by omega) (by omega)
  have found := exists_ofDays (moment.second / 86400)
  have counted := toDays_ofDays (moment.second / 86400)
  have written := toList_text moment
  generalize Date.ofDays (moment.second / 86400) = date at *
  generalize ofDayEq : (moment.second % 86400).toNat = ofDay at written
  dsimp only at written
  have dated := (congrArg date? written).trans (date?_parts _ (by omega) (by omega))
  have timed : timeOfDay? _ = some (_, ['Z']) :=
    timeOfDay?_parts (ofDay / 3600) (ofDay / 60 % 60) (ofDay % 60 + moment.fraction / 1000000000)
      (moment.fraction % 1000000000) (by omega) (by omega) (by omega) (by omega)
      (by rintro c ⟨⟩; rfl) (by decide)
  rw [instant?_parts dated timed found yearLow yearHigh, Instant.ofParts?_eq_some_iff, counted]
  constructor <;> omega

instance : Json.LawfulWire Instant where
  decode_encode place moment := by
    simp only [Json.encode, Json.Wire.decode, instant?_text]

instance : Json.NeverNull Instant := ⟨by rintro _ ⟨⟩⟩

end Fieldwatch.Time
