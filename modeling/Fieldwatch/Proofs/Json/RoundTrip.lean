import Mathlib.Data.String.Basic
import Fieldwatch.Json.Record

/-!
# Round trips through JSON

A record written as an object is read back: the object holds under each key the value that was
written there, so each field finds what it wrote. Records are composed of fields, and what a field
reads composes alike. A field does not look at the entries of other keys, and an optional one finds
the same in null as in nothing, so a record is read back from any object that keeps what it wrote.
-/
namespace Fieldwatch.Json

/-! ## Objects -/

/-- An entry that was put is found under its key, and hides what was there. -/
theorem lookup_put (key other : String) (value : Json) (entries : List (String × Json)) :
    lookup other (put key value entries) =
      if other = key then some value else lookup other entries := by
  induction entries with
  | nil =>
    by_cases same : key = other
    · simp [put, lookup, same]
    · simp [put, lookup, same, Ne.symm same]
  | cons entry rest ih =>
    unfold put
    split
    · by_cases same : key = other
      · simp [lookup, same]
      · simp [lookup, same, Ne.symm same]
    · split
      · next here =>
        by_cases same : key = other
        · simp [lookup, same]
        · simp [lookup, same, Ne.symm same, ← here]
      · next elsewhere =>
        by_cases first : entry.1 = other
        · have apart : other ≠ key := fun same => elsewhere (same.symm.trans first.symm)
          simp [lookup, first, apart]
        · simpa [lookup, first] using ih

/-- Whether entries stand in the order of their keys, each key once. -/
def InKeyOrder (entries : List (String × Json)) : Prop := entries.Pairwise fun a b => a.1 < b.1

theorem InKeyOrder.distinct {entries : List (String × Json)} (sorted : InKeyOrder entries) :
    (entries.map Prod.fst).Nodup :=
  List.pairwise_map.mpr (sorted.imp fun before => ne_of_lt before)

theorem InKeyOrder.put {entries : List (String × Json)} (sorted : InKeyOrder entries) (key : String)
    (value : Json) : InKeyOrder (put key value entries) := by
  -- what is put adds no entry but its own, so the first entry still stands before the others
  suffices placed : InKeyOrder (Json.put key value entries) ∧
      ∀ entry ∈ Json.put key value entries, entry.1 = key ∨ entry ∈ entries from placed.1
  induction entries with
  | nil => simp [Json.put, InKeyOrder]
  | cons head rest ih =>
    obtain ⟨below, sorted⟩ := List.pairwise_cons.mp sorted
    obtain ⟨placed, among⟩ := ih sorted
    unfold Json.put
    by_cases before : key < head.1
    · rw [if_pos before]
      constructor
      · refine List.pairwise_cons.mpr
          ⟨fun entry member => ?_, List.pairwise_cons.mpr ⟨below, sorted⟩⟩
        rcases List.mem_cons.mp member with rfl | later
        · exact before
        · exact lt_trans before (below entry later)
      · intro entry member
        rcases List.mem_cons.mp member with rfl | old
        · exact .inl rfl
        · exact .inr old
    · rw [if_neg before]
      by_cases here : key = head.1
      · rw [if_pos here]
        constructor
        · exact List.pairwise_cons.mpr ⟨fun entry later => here ▸ below entry later, sorted⟩
        · intro entry member
          rcases List.mem_cons.mp member with rfl | later
          · exact .inl rfl
          · exact .inr (List.mem_cons_of_mem _ later)
      · rw [if_neg here]
        have after : head.1 < key := lt_of_le_of_ne (not_lt.mp before) (Ne.symm here)
        constructor
        · refine List.pairwise_cons.mpr ⟨fun entry member => ?_, placed⟩
          rcases among entry member with same | old
          · exact same ▸ after
          · exact below entry old
        · intro entry member
          rcases List.mem_cons.mp member with rfl | later
          · exact .inr List.mem_cons_self
          · exact (among entry later).imp_right (List.mem_cons_of_mem _)

theorem InKeyOrder.foldl_put {sorted : List (String × Json)} (inOrder : InKeyOrder sorted)
    (entries : List (String × Json)) :
    InKeyOrder (entries.foldl (fun sorted entry => Json.put entry.1 entry.2 sorted) sorted) := by
  induction entries generalizing sorted with
  | nil => exact inOrder
  | cons entry rest ih => exact ih (inOrder.put entry.1 entry.2)

theorem inKeyOrder_inKeyOrder (entries : List (String × Json)) : InKeyOrder (inKeyOrder entries) :=
  InKeyOrder.foldl_put .nil entries

/-- Under each key stands what was put there last, or what stood there before. -/
theorem lookup_foldl_put (key : String) (entries sorted : List (String × Json)) :
    lookup key (entries.foldl (fun sorted entry => put entry.1 entry.2 sorted) sorted) =
      (lookup key entries.reverse).or (lookup key sorted) := by
  induction entries generalizing sorted with
  | nil => simp [lookup]
  | cons entry rest ih =>
    rw [List.foldl_cons, ih, lookup_put]
    by_cases same : entry.1 = key
    · simp [lookup, List.find?_append, same]
    · simp [lookup, List.find?_append, same, Ne.symm same]

theorem lookup_inKeyOrder (key : String) (entries : List (String × Json)) :
    lookup key (inKeyOrder entries) = lookup key entries.reverse := by
  rw [inKeyOrder, lookup_foldl_put]
  simp [lookup]

theorem get?_record (key : String) (entries : List (String × Json)) :
    (record entries).get? key = lookup key entries.reverse :=
  lookup_inKeyOrder key entries

/-- Where keys differ, an entry is the first of its key. -/
theorem find?_of_mem {α : Type} {entries : List (String × α)} {entry : String × α}
    (distinct : (entries.map Prod.fst).Nodup) (found : entry ∈ entries) :
    (entries.find? fun other => other.1 = entry.1) = some entry := by
  induction entries with
  | nil => cases found
  | cons head rest ih =>
    obtain ⟨fresh, distinct⟩ := List.nodup_cons.mp distinct
    rcases List.mem_cons.mp found with rfl | later
    · simp
    · have apart : head.1 ≠ entry.1 := fun same => fresh (same ▸ List.mem_map_of_mem later)
      simpa [apart] using ih distinct later

theorem lookup_of_mem {entries : List (String × Json)} {entry : String × Json}
    (distinct : (entries.map Prod.fst).Nodup) (found : entry ∈ entries) :
    lookup entry.1 entries = some entry.2 := by
  rw [lookup, find?_of_mem distinct found]
  rfl

theorem lookup_eq_none {key : String} {entries : List (String × Json)}
    (absent : key ∉ entries.map Prod.fst) : lookup key entries = none := by
  simp only [lookup, Option.map_eq_none_iff, List.find?_eq_none, decide_eq_true_eq]
  intro entry member same
  exact absent (same ▸ List.mem_map_of_mem member)

theorem mem_of_lookup {key : String} {value : Json} {entries : List (String × Json)}
    (found : lookup key entries = some value) : (key, value) ∈ entries := by
  obtain ⟨entry, first, rfl⟩ := Option.map_eq_some_iff.mp found
  obtain rfl : entry.1 = key := by simpa using List.find?_some first
  exact List.mem_of_find?_eq_some first

/-- Whether an object keeps what was written: it has each key once, and under the key of each value
it has that value, or nothing in the place of null. -/
structure Keeps (written entries : List (String × Json)) : Prop where
  distinct : (entries.map Prod.fst).Nodup
  held : ∀ key value, lookup key written = some value →
    lookup key entries = some value ∨ value = .null ∧ lookup key entries = none

theorem InKeyOrder.keeps {entries : List (String × Json)} (sorted : InKeyOrder entries) :
    Keeps entries entries :=
  ⟨sorted.distinct, fun _ _ found => .inl found⟩

/-! ## Records -/

namespace Record

variable {α β : Type} {place : Place} {find : String → Option Json}

/-- Whether a record is read as a value from what is found under the names of its fields. -/
structure Reads (record : Record α) (place : Place) (find : String → Option Json) (value : α) :
    Prop where
  build_eq : record.build place find = .ok value
  check_eq : ∀ field ∈ record.fields, ∀ held, find field.name = some held →
    field.check place held = .ok ()

theorem Reads.map {record : Record α} {value : α} (make : α → β)
    (reads : record.Reads place find value) : (make <$> record).Reads place find (make value) where
  build_eq := by
    change (record.build place find).map make = _
    rw [reads.build_eq]
    rfl
  check_eq := reads.check_eq

theorem Reads.seq {first : Record (α → β)} {second : Record α} {make : α → β} {value : α}
    (made : first.Reads place find make) (reads : second.Reads place find value) :
    (first <*> second).Reads place find (make value) where
  build_eq := by
    change (do
      let make ← first.build place find
      let value ← second.build place find
      return make value) = _
    rw [made.build_eq, reads.build_eq]
    rfl
  check_eq := by
    intro field member
    rcases List.mem_append.mp member with own | other
    · exact made.check_eq field own
    · exact reads.check_eq field other

/-- A record is read from entries of different keys in which its fields find a value. -/
theorem ofEntries_of_reads {record : Record α} {entries : List (String × Json)} {value : α}
    (distinct : (entries.map Prod.fst).Nodup)
    (reads : record.Reads place (lookup · entries) value) :
    record.ofEntries place entries = .ok value := by
  -- the entries are checked one by one, each by the field that finds it later
  have checked : ∀ held : List (String × Json), (∀ entry ∈ held, entry ∈ entries) →
      record.checkEntries place held = .ok () := by
    intro held among
    induction held with
    | nil => rfl
    | cons entry rest ih =>
      have later := ih fun other member => among other (List.mem_cons_of_mem _ member)
      have here := among entry List.mem_cons_self
      simp only [checkEntries]
      split
      · next field found =>
        have named : field.name = entry.1 := by simpa using List.find?_some found
        have there := lookup_of_mem distinct here
        rw [reads.check_eq field (List.mem_of_find?_eq_some found) entry.2 (named ▸ there)]
        exact later
      · exact later
  rw [ofEntries, checked _ fun entry member => member]
  exact reads.build_eq

theorem decode_of_reads {record : Record α} {name : String} {entries : List (String × Json)}
    {value : α} (distinct : (entries.map Prod.fst).Nodup)
    (reads : record.Reads place (lookup · entries) value) :
    record.decode name place (.obj entries) = .ok value :=
  ofEntries_of_reads distinct reads

/-- A record is read with a second one among its fields when both find their values. -/
theorem decodeWith_of_reads {own : Record (α → β)} {inner : Record α} {name : String}
    {entries : List (String × Json)} {make : α → β} {value : α}
    (distinct : (entries.map Prod.fst).Nodup)
    (made : own.Reads place (lookup · entries) make)
    (reads : inner.Reads .keptAside (lookup · entries) value) :
    own.decodeWith inner name place (.obj entries) = .ok (make value) := by
  simp only [decodeWith, ofEntries_of_reads distinct made, ofEntries_of_reads distinct reads]
  rfl

end Record

/-! ## Values that are read back -/

/-- A type whose values are read back from their JSON form, wherever they stand. -/
class LawfulWire (α : Type) [Wire α] : Prop where
  decode_encode : ∀ (place : Place) (value : α), Wire.decode place (encode value) = .ok value

/-- A type none of whose values is written as null. -/
class NeverNull (α : Type) [Wire α] : Prop where
  encode_ne_null : ∀ value : α, encode value ≠ .null

export LawfulWire (decode_encode)
export NeverNull (encode_ne_null)

theorem Record.Reads.required {α : Type} [Wire α] [LawfulWire α] {place : Place}
    {find : String → Option Json} {name : String} {value : α}
    (found : find name = some (encode value)) :
    (Record.required name : Record α).Reads place find value where
  build_eq := by simp only [Record.required, found, decode_encode]
  check_eq := by
    intro field member held there
    obtain rfl := List.mem_singleton.mp member
    obtain rfl : encode value = held := Option.some.inj (found.symm.trans there)
    simp only [Record.checkOnly, decode_encode]
    rfl

theorem Record.Reads.optional {α : Type} [Wire α] [LawfulWire (Option α)] {place : Place}
    {find : String → Option Json} {name : String} {value : Option α}
    (found : find name = some (encode value)) :
    (Record.optional name : Record (Option α)).Reads place find value where
  build_eq := by simp only [Record.optional, found, decode_encode]
  check_eq := by
    intro field member held there
    obtain rfl := List.mem_singleton.mp member
    obtain rfl : encode value = held := Option.some.inj (found.symm.trans there)
    simp only [Record.checkOnly, decode_encode]
    rfl

theorem Record.Reads.absent {α : Type} [Wire α] {place : Place} {find : String → Option Json}
    {name : String} (nothing : find name = none) :
    (Record.optional name : Record (Option α)).Reads place find none where
  build_eq := by simp only [Record.optional, nothing]
  check_eq := by
    intro field member held there
    obtain rfl := List.mem_singleton.mp member
    exact absurd there (by simp [nothing])

instance : LawfulWire Json := ⟨fun _ _ => rfl⟩
instance : LawfulWire String := ⟨fun _ _ => rfl⟩
instance : LawfulWire Bool := ⟨fun _ _ => rfl⟩
instance : LawfulWire Double := ⟨fun _ _ => rfl⟩

instance : NeverNull String := ⟨by rintro _ ⟨⟩⟩
instance : NeverNull Bool := ⟨by rintro _ ⟨⟩⟩
instance : NeverNull Double := ⟨by rintro _ ⟨⟩⟩

instance : LawfulWire UInt16 where
  decode_encode place value := by
    have bound := value.toNat_lt
    simp [encode, Wire.decode, intBetween, Except.map, show (value.toNat : Int) ≤ 65535 by omega]

instance {α : Type} [Wire α] [LawfulWire α] [NeverNull α] : LawfulWire (Option α) where
  decode_encode place value := by
    cases value with
    | none => rfl
    | some value =>
      -- null would be read as no value, but none is written so
      have held := encode_ne_null value
      change Wire.decode (α := Option α) place (encode value) = .ok (some value)
      generalize written : encode value = json at held
      cases json with
      | null => exact absurd rfl held
      | _ =>
        change (Wire.decode place _).map some = _
        rw [← written, decode_encode]
        rfl

/-! ## Records that are read back from what keeps them -/

section Keeping

variable {α : Type} [Wire α] [NeverNull α] {place : Place} {fields entries : List (String × Json)}
  {name : String}

theorem Keeps.required [LawfulWire α] {value : α} (keeps : Keeps (inKeyOrder fields) entries)
    (given : lookup name fields.reverse = some (encode value)) :
    (Record.required name : Record α).Reads place (lookup · entries) value := by
  rw [← lookup_inKeyOrder] at given
  rcases keeps.held name _ given with found | ⟨null, -⟩
  · exact .required found
  · exact absurd null (encode_ne_null value)

/-- A field that may be absent finds its value in what keeps the record, or nothing if it has
none. -/
theorem Keeps.optional [LawfulWire α] {value : Option α} (keeps : Keeps (inKeyOrder fields) entries)
    (given : lookup name fields.reverse = some (encode value)) :
    (Record.optional name : Record (Option α)).Reads place (lookup · entries) value := by
  rw [← lookup_inKeyOrder] at given
  rcases keeps.held name _ given with found | ⟨null, nothing⟩
  · exact .optional found
  · cases value with
    | none => exact .absent nothing
    | some value => exact absurd null (encode_ne_null value)

end Keeping

/-- Whether a value is written as an object and read back from whatever keeps what was written,
wherever that stands. -/
def ReadsBack {α : Type} [Wire α] (value : α) : Prop :=
  ∃ entries, encode value = .obj entries ∧ InKeyOrder entries ∧
    ∀ place kept, Keeps entries kept → Wire.decode place (.obj kept) = .ok value

class LawfulRecord (α : Type) [Wire α] : Prop where
  readsBack : ∀ value : α, ReadsBack value

/-- A record is read back when each of its fields finds its value in what keeps it. -/
theorem ReadsBack.of_reads {α : Type} [Wire α] {record : Record α} {name : String}
    {fields : List (String × Json)} {value : α} (encoded : encode value = Json.record fields)
    (decodes : Wire.decode (α := α) = record.decode name)
    (reads : ∀ place kept, Keeps (inKeyOrder fields) kept →
      record.Reads place (lookup · kept) value) : ReadsBack value := by
  refine ⟨inKeyOrder fields, encoded, inKeyOrder_inKeyOrder fields, fun place kept keeps => ?_⟩
  rw [decodes]
  exact Record.decode_of_reads keeps.distinct (reads place kept keeps)

/-- A record with a second one among its fields is read back when the fields of both find their
values in what keeps it. -/
theorem ReadsBack.of_reads_with {α β : Type} [Wire β] {own : Record (α → β)} {inner : Record α}
    {name : String} {fields : List (String × Json)} {value : β}
    (encoded : encode value = Json.record fields)
    (decodes : Wire.decode (α := β) = own.decodeWith inner name)
    (reads : ∀ place kept, Keeps (inKeyOrder fields) kept → ∃ make part, make part = value ∧
      own.Reads place (lookup · kept) make ∧ inner.Reads .keptAside (lookup · kept) part) :
    ReadsBack value := by
  refine ⟨inKeyOrder fields, encoded, inKeyOrder_inKeyOrder fields, fun place kept keeps => ?_⟩
  obtain ⟨make, part, rfl, made, read⟩ := reads place kept keeps
  rw [decodes]
  exact Record.decodeWith_of_reads keeps.distinct made read

instance {α : Type} [Wire α] [LawfulRecord α] : LawfulWire α where
  decode_encode place value := by
    obtain ⟨entries, encoded, sorted, decoded⟩ := LawfulRecord.readsBack value
    rw [encoded]
    exact decoded place entries sorted.keeps

end Fieldwatch.Json
