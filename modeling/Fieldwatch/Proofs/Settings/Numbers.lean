import Mathlib.Data.UInt
import Mathlib.Tactic.ByContra
import Fieldwatch.Settings.Basic

/-!
# Numbers in settings

Which texts are read as zero, and which numbers of the settings can be zero: none is so unless its
name is given such a text, and every one for which there is no other rule is so if it is.
-/
namespace Fieldwatch.Settings

/-! ## Zero -/

/-- Whether a text writes zero: one zero or more, perhaps after a plus sign. -/
def WritesZero (text : String) : Prop :=
  ∃ more, text.toList = List.replicate (more + 1) '0' ∨
    text.toList = '+' :: List.replicate (more + 1) '0'

theorem eq_zero_of_isDigit {c : Char} (digit : c.isDigit = true) (least : c.toNat - 48 = 0) :
    c = '0' := by
  have low : 48 ≤ c.toNat := (Char.isDigit_iff_toNat.mp digit).1
  exact Char.toNat_inj.mp (show c.toNat = 48 by omega)

/-- Digits are read as zero exactly when they are zeros and nothing but zeros came before. -/
theorem digits_eq_zero_iff {limit value : Nat} (positive : 0 < limit) {chars : List Char} :
    digits limit value chars = .ok 0 ↔ value = 0 ∧ chars = List.replicate chars.length '0' := by
  induction chars generalizing value with
  | nil =>
    constructor
    · intro read
      cases read
      exact ⟨rfl, rfl⟩
    · rintro ⟨rfl, -⟩
      rfl
  | cons c rest ih =>
    rw [List.length_cons, List.replicate_succ, List.cons.injEq]
    simp only [digits]
    by_cases digit : c.isDigit = true
    · rw [if_neg (by simp [digit])]
      by_cases small : value * 10 + (c.toNat - 48) < limit
      · rw [if_pos small, ih]
        constructor
        · rintro ⟨zero, zeros⟩
          exact ⟨by omega, eq_zero_of_isDigit digit (by omega), zeros⟩
        · rintro ⟨rfl, rfl, zeros⟩
          exact ⟨rfl, zeros⟩
      · rw [if_neg small]
        constructor
        · intro read
          cases read
        · rintro ⟨rfl, rfl, -⟩
          exact absurd positive small
    · rw [if_pos (by simp [digit])]
      constructor
      · intro read
        cases read
      · rintro ⟨-, rfl, -⟩
        exact absurd rfl digit

theorem digits_zero_eq_zero_iff {limit : Nat} (positive : 0 < limit) {c : Char} {rest : List Char} :
    digits limit 0 (c :: rest) = .ok 0 ↔ ∃ more, c :: rest = List.replicate (more + 1) '0' := by
  rw [digits_eq_zero_iff positive]
  constructor
  · rintro ⟨-, zeros⟩
    exact ⟨rest.length, zeros⟩
  · rintro ⟨more, zeros⟩
    rw [zeros, List.length_replicate]
    exact ⟨rfl, rfl⟩

theorem number_eq_zero_iff {limit : Nat} (positive : 0 < limit) {text : String} :
    number limit text = .ok 0 ↔ WritesZero text := by
  unfold number WritesZero
  generalize text.toList = chars
  split
  · simp [List.replicate_succ]
  · simp [List.replicate_succ]
  · next rest more =>
    cases rest with
    | nil => exact absurd rfl more
    | cons c rest =>
      rw [digits_zero_eq_zero_iff positive]
      simp [List.replicate_succ]
  · next none sign other =>
    cases chars with
    | nil => exact absurd rfl none
    | cons c rest =>
      rw [digits_zero_eq_zero_iff positive]
      have unsigned : c ≠ '+' := fun same => other rest (same ▸ rfl)
      simp [unsigned]

/-! ## Settings -/

/-- Whether a name is given as a text that writes zero, blanks at its ends apart. -/
def GivenZero (environment : Environment) (name : String) : Prop :=
  ∃ text, given environment name = some text ∧ WritesZero (Text.trim text)

theorem number_lt {limit result : Nat} (positive : 0 < limit) {text : String}
    (read : number limit text = .ok result) : result < limit := by
  unfold number at read
  split at read
  · cases read
  · cases read
  · exact digits_lt positive read
  · exact digits_lt positive read

section
variable {environment : Environment} {name : String} {limit : Nat}

theorem number?_eq_ok {found : Option Nat} (read : number? limit environment name = .ok found) :
    (given environment name = none ∧ found = none) ∨
      ∃ text result, given environment name = some text ∧
        number limit (Text.trim text) = .ok result ∧ found = some result := by
  unfold number? value? at read
  cases there : given environment name with
  | none =>
    rw [there] at read
    cases read
    exact .inl ⟨rfl, rfl⟩
  | some text =>
    cases result : number limit (Text.trim text) with
    | ok result =>
      simp only [there, result, Except.mapError] at read
      cases read
      exact .inr ⟨text, _, rfl, result, rfl⟩
    | error fault =>
      simp only [there, result, Except.mapError] at read
      cases read

/-- A number that is usually not zero is zero exactly when its name is given so. -/
theorem getD_eq_zero_iff {α : Type} {ofNat : Nat → α} {zero usual : α} {found : Option Nat}
    (positive : 0 < limit) (faithful : ∀ number < limit, ofNat number = zero ↔ number = 0)
    (unusual : usual ≠ zero) (read : number? limit environment name = .ok found) :
    (found.map ofNat).getD usual = zero ↔ GivenZero environment name := by
  unfold GivenZero
  rcases number?_eq_ok read with ⟨absent, rfl⟩ | ⟨text, result, there, written, rfl⟩
  · rw [absent]
    simpa using unusual
  · rw [there, Option.map_some, Option.getD_some, faithful result (number_lt positive written)]
    constructor
    · rintro rfl
      exact ⟨text, rfl, (number_eq_zero_iff positive).mp written⟩
    · rintro ⟨_, ⟨⟩, zero⟩
      have same := written.symm.trans ((number_eq_zero_iff positive).mpr zero)
      exact Except.ok.inj same

end

theorem bind_eq_ok {ε α β : Type} {first : Except ε α} {next : α → Except ε β} {result : β}
    (answered : first >>= next = .ok result) :
    ∃ value, first = .ok value ∧ next value = .ok result := by
  cases first with
  | ok value => exact ⟨value, rfl, answered⟩
  | error error => cases answered

/-- Of the numbers without which the pipeline cannot run, each is zero exactly when its name is
given so; no text that writes zero is refused. -/
theorem ofEnvironment_zeros {environment : Environment} {settings : Settings}
    (read : ofEnvironment environment = .ok settings) :
    (settings.pollMillis = 0 ↔ GivenZero environment "OUTBOX_POLL_INTERVAL_MS") ∧
      (settings.batchSize = 0 ↔ GivenZero environment "OUTBOX_BATCH_SIZE") ∧
      (settings.maxDeliveryAttempts = 0 ↔
        GivenZero environment "BROKER_MAX_DELIVERY_ATTEMPTS") := by
  unfold ofEnvironment at read
  obtain ⟨port, -, read⟩ := bind_eq_ok read
  obtain ⟨format, -, read⟩ := bind_eq_ok read
  obtain ⟨connections, -, read⟩ := bind_eq_ok read
  obtain ⟨tolerance, -, read⟩ := bind_eq_ok read
  obtain ⟨poll, pollRead, read⟩ := bind_eq_ok read
  obtain ⟨batch, batchRead, read⟩ := bind_eq_ok read
  obtain ⟨retention, -, read⟩ := bind_eq_ok read
  obtain ⟨attempts, attemptsRead, read⟩ := bind_eq_ok read
  obtain ⟨backoff, -, read⟩ := bind_eq_ok read
  cases read
  have faithful64 : ∀ number < UInt64.size, UInt64.ofNat number = 0 ↔ number = 0 := by
    intro number small
    rw [← UInt64.toNat_inj, UInt64.toNat_ofNat_of_lt' small]
    rfl
  have faithful32 : ∀ number < UInt32.size, UInt32.ofNat number = 0 ↔ number = 0 := by
    intro number small
    rw [← UInt32.toNat_inj, UInt32.toNat_ofNat_of_lt' small]
    rfl
  exact ⟨getD_eq_zero_iff (by decide) faithful64 (by decide) pollRead,
    getD_eq_zero_iff (by decide) faithful64 (by decide) batchRead,
    getD_eq_zero_iff (by decide) faithful32 (by decide) attemptsRead⟩

end Fieldwatch.Settings
