import Fieldwatch.Proofs.Database.ReadBack
import Fieldwatch.Proofs.Database.Selections
import Fieldwatch.Proofs.Delivery.Attempts
import Fieldwatch.Proofs.Pipeline.Running

/-!
# Counts that are bound

A count is a natural number of 32 or 64 bits, and is bound as the signed integer of the same bits.
In the lower half of its range it is bound as it is. In the upper half it is bound as a negative
integer: a bound on attempts that is so high admits no entry that was attempted less often than
half the range, and none at all of those that are new.
-/
namespace Fieldwatch.Database

/-! ## Signed integers -/

/-- The signed integer of the same bits as a natural number, by half of the range. -/
def signed (half number : Nat) : Int :=
  if number < half then number else (number : Int) - 2 * half

section Signed

variable {half number other : Nat}

theorem signed_eq_iff (positive : 0 < half) : signed half number = number ↔ number < half := by
  unfold signed
  split <;> omega

theorem signed_neg_iff (fits : number < 2 * half) : signed half number < 0 ↔ half ≤ number := by
  unfold signed
  split <;> omega

/-- The order of two numbers is kept, unless half of the range lies between them. -/
theorem signed_lt_iff (fits : other < 2 * half) (less : number < other) :
    signed half number < signed half other ↔ ¬ (number < half ∧ half ≤ other) := by
  unfold signed
  split <;> split <;> omega

end Signed

theorem toInt_toInt64 (count : UInt64) : count.toInt64.toInt = signed (2 ^ 63) count.toNat := by
  rw [← Int64.toInt_toBitVec, UInt64.toBitVec_toInt64, BitVec.toInt_eq_toNat_cond, signed,
    UInt64.toNat_toBitVec]
  split <;> split <;> omega

theorem toInt_toInt32 (count : UInt32) : count.toInt32.toInt = signed (2 ^ 31) count.toNat := by
  rw [← Int32.toInt_toBitVec, UInt32.toBitVec_toInt32, BitVec.toInt_eq_toNat_cond, signed,
    UInt32.toNat_toBitVec]
  split <;> split <;> omega

/-- The integer that a value is. -/
def Value.integer? : Value → Option Int
  | .int4 value => some value.toInt
  | .int8 value => some value.toInt
  | _ => none

/-! ## Fetching entries -/

theorem selection?_selectUnpublished (limit : UInt64) (most : UInt32) :
    (selectUnpublished limit most).selection? = some
      { columns := Table.columns OutboxEntry
        table := Table.name OutboxEntry
        conditions := [⟨"status", .unequal, .text "published"⟩,
          ⟨"attempts", .below, toValue most.toInt32⟩]
        order := ["created_at", "seq"]
        limit := some (toValue limit.toInt64)
        offset := none } := by
  have word : IsWord (Table.name OutboxEntry) := by decide
  have names : ∀ column ∈ Table.columns OutboxEntry, IsWord column ∧ column ≠ "FROM" := by decide
  have said : words
      "status <> 'published' AND attempts < $2 ORDER BY created_at ASC, seq ASC LIMIT $1" =
    ["status", "<>", "'published'", "AND", "attempts", "<", "$2", "ORDER", "BY", "created_at",
      "ASC", "seq", "ASC", "LIMIT", "$1"] := by decide
  have read : selectionOf (words (selectUnpublished limit most).text) = some
      ⟨Table.columns OutboxEntry, Table.name OutboxEntry,
        [⟨"status", .unequal, "'published'"⟩, ⟨"attempts", .below, "$2"⟩], ["created_at", "seq"],
        some "$1", none⟩ := by
    rw [selectUnpublished, select, Statement.selectionOf_select word names, said]
    rfl
  have one : placeholder 1 = "$1" := by decide
  have two : placeholder 2 = "$2" := by decide
  have first : (selectUnpublished limit most).term? "$1" = some (toValue limit.toInt64) := by
    have bound : (selectUnpublished limit most).params =
        [] ++ toValue limit.toInt64 :: [toValue most.toInt32] := rfl
    have found := Statement.term?_placeholder bound
    rwa [List.length_nil, Nat.zero_add, one] at found
  have second : (selectUnpublished limit most).term? "$2" = some (toValue most.toInt32) := by
    have bound : (selectUnpublished limit most).params =
        [toValue limit.toInt64] ++ toValue most.toInt32 :: [] := rfl
    have found := Statement.term?_placeholder bound
    rwa [List.length_singleton, two] at found
  have quote : (selectUnpublished limit most).term? "'published'" = some (.text "published") := rfl
  refine Statement.selection?_eq_some read ?_ ?_ rfl
  · simp [Statement.compare?, second, quote]
  · simp [first]

theorem value?_status (entry : OutboxEntry) :
    (Schema.outbox.fill (Table.toRow entry)).value? "status" =
      some (.text entry.status.name) :=
  TableShape.value?_fill _ (by decide)

theorem value?_attempts (entry : OutboxEntry) :
    (Schema.outbox.fill (Table.toRow entry)).value? "attempts" =
      some (.int4 entry.attempts.toInt32) :=
  TableShape.value?_fill _ (by decide)

theorem accepts_status (entry : OutboxEntry) :
    Comparison.accepts ⟨"status", .unequal, .text "published"⟩
      (Schema.outbox.fill (Table.toRow entry)) = true ↔ entry.status ≠ .published := by
  rw [Comparison.accepts, value?_status]
  change decide (entry.status.name ≠ "published") = true ↔ _
  cases entry.status <;> decide

theorem accepts_attempts (most : UInt32) (entry : OutboxEntry) :
    Comparison.accepts ⟨"attempts", .below, toValue most.toInt32⟩
        (Schema.outbox.fill (Table.toRow entry)) = true ↔
      signed (2 ^ 31) entry.attempts.toNat < signed (2 ^ 31) most.toNat := by
  rw [Comparison.accepts, value?_attempts, ← toInt_toInt32, ← toInt_toInt32,
    ← Int32.lt_iff_toInt_lt]
  exact decide_eq_true_iff

/-- A count is bound as the integer that it is, if it is in the lower half of its range, and as a
negative one otherwise: the limit and the bound on attempts of a fetch, the limit and the offset of
a query, and the attempts of an entry. So a fetch passes over an entry that is to be delivered
exactly when half of the range lies between its attempts and their bound. -/
theorem counts_bound (limit : UInt64) (most : UInt32) (query : ReadingQuery)
    (entry : OutboxEntry) :
    ∃ fetch read row,
      (selectUnpublished limit most).selection? = some fetch ∧
      (selectReadings query).selection? = some read ∧
      (insertEntry entry).row? = some row ∧
      fetch.limit.bind Value.integer? = some (signed (2 ^ 63) limit.toNat) ∧
      fetch.conditions.filterMap (fun comparison => comparison.bound.integer?) =
        [signed (2 ^ 31) most.toNat] ∧
      read.limit.map Value.integer? =
        (query.limit.map fun count => some (signed (2 ^ 63) count.toNat)) ∧
      read.offset.map Value.integer? =
        (query.offset.map fun count => some (signed (2 ^ 63) count.toNat)) ∧
      (row.value? "attempts").bind Value.integer? =
        some (signed (2 ^ 31) entry.attempts.toNat) ∧
      (entry.isDeliverable most = true ∧ fetch.accepts row = false ↔
        entry.status ≠ .published ∧ entry.attempts.toNat < 2 ^ 31 ∧ 2 ^ 31 ≤ most.toNat) ∧
      (∀ count : UInt32, (signed (2 ^ 31) count.toNat = count.toNat ↔ count.toNat < 2 ^ 31) ∧
        (signed (2 ^ 31) count.toNat < 0 ↔ 2 ^ 31 ≤ count.toNat)) ∧
      ∀ count : UInt64, (signed (2 ^ 63) count.toNat = count.toNat ↔ count.toNat < 2 ^ 63) ∧
        (signed (2 ^ 63) count.toNat < 0 ↔ 2 ^ 63 ≤ count.toNat) := by
  refine ⟨_, _, _, selection?_selectUnpublished limit most, selection?_selectReadings query,
    row?_insertEntry entry, ?_, ?_, ?_, ?_, ?_, ?_, fun count => ?_, fun count => ?_⟩
  · exact congrArg some (toInt_toInt64 limit)
  · exact congrArg ([·]) (toInt_toInt32 most)
  · rw [Option.map_map]
    exact Option.map_congr fun count _ => congrArg some (toInt_toInt64 count)
  · rw [Option.map_map]
    exact Option.map_congr fun count _ => congrArg some (toInt_toInt64 count)
  · rw [value?_attempts]
    exact congrArg some (toInt_toInt32 entry.attempts)
  · rw [← Bool.not_eq_true, Selection.accepts, List.all_cons, List.all_cons, List.all_nil,
      Bool.and_true, Bool.and_eq_true, accepts_status, accepts_attempts,
      Delivery.isDeliverable_iff]
    constructor
    · rintro ⟨⟨unpublished, less⟩, passed⟩
      have apart := mt (signed_lt_iff most.toNat_lt less).mpr fun before =>
        passed ⟨unpublished, before⟩
      exact ⟨unpublished, not_not.mp apart⟩
    · rintro ⟨unpublished, low, high⟩
      have less := Nat.lt_of_lt_of_le low high
      exact ⟨⟨unpublished, less⟩, fun taken =>
        (signed_lt_iff most.toNat_lt less).mp taken.2 ⟨low, high⟩⟩
  · exact ⟨signed_eq_iff (by decide), signed_neg_iff count.toNat_lt⟩
  · exact ⟨signed_eq_iff (by decide), signed_neg_iff count.toNat_lt⟩

/-- Where as many attempts are allowed as there can be, a fetch passes over a new entry, which is to
be delivered; where as many entries are asked for as there can be, it asks for less than none. -/
theorem endless_attempts_fetch_nothing :
    (∃ settings, Settings.ofEnvironment (only "BROKER_MAX_DELIVERY_ATTEMPTS" "4294967295") =
        .ok settings ∧ settings.maxDeliveryAttempts = 4294967295) ∧
      ∃ fetch row,
        let entry : OutboxEntry := .new ⟨2⟩
          ⟨⟨7⟩, "SensorIngested", 1, ⟨8⟩, ⟨9⟩, "IngestReading", .epoch, .null⟩ .epoch
        (selectUnpublished 18446744073709551615 4294967295).selection? = some fetch ∧
          (insertEntry entry).row? = some row ∧
          fetch.limit.bind Value.integer? = some (-1) ∧
          fetch.conditions.filterMap (fun comparison => comparison.bound.integer?) = [-1] ∧
          entry.isDeliverable 4294967295 = true ∧ fetch.accepts row = false := by
  refine ⟨⟨_, rfl, rfl⟩, _, _, selection?_selectUnpublished _ _, row?_insertEntry _, ?_, ?_, ?_, ?_⟩
  · decide
  · decide
  · decide
  · decide

end Fieldwatch.Database
