import Fieldwatch.Id

/-!
# Drawn identifiers

Values drawn from a supply one after another, within a stretch of it. Where the supply does not
repeat itself on the stretch, they differ from each other.
-/
namespace Fieldwatch

/-- Whether values were drawn from a supply in their order, at places from `low` on and below
`high`. -/
def DrawnInOrder (draw : Nat → BitVec 128) (low high : Nat) (values : List (BitVec 128)) : Prop :=
  ∃ places : List Nat, values = places.map draw ∧ places.Pairwise (· < ·) ∧
    ∀ place ∈ places, low ≤ place ∧ place < high

namespace DrawnInOrder

variable {draw : Nat → BitVec 128} {low middle high : Nat} {values more : List (BitVec 128)}

theorem nil (draw : Nat → BitVec 128) (low high : Nat) : DrawnInOrder draw low high [] :=
  ⟨[], rfl, .nil, by rintro _ ⟨⟩⟩

theorem singleton {place : Nat} (after : low ≤ place) (before : place < high) :
    DrawnInOrder draw low high [draw place] := by
  refine ⟨[place], rfl, List.pairwise_singleton _ _, fun other member => ?_⟩
  obtain rfl := List.mem_singleton.mp member
  exact ⟨after, before⟩

theorem widen {low' high' : Nat} (drawn : DrawnInOrder draw low high values) (lower : low' ≤ low)
    (higher : high ≤ high') : DrawnInOrder draw low' high' values := by
  obtain ⟨places, same, ordered, within⟩ := drawn
  refine ⟨places, same, ordered, fun place member => ?_⟩
  obtain ⟨after, before⟩ := within place member
  omega

/-- Some of the values drawn from a stretch were drawn from it in order. -/
theorem sublist (drawn : DrawnInOrder draw low high values) (some : more.Sublist values) :
    DrawnInOrder draw low high more := by
  obtain ⟨places, rfl, ordered, within⟩ := drawn
  obtain ⟨others, among, rfl⟩ := List.sublist_map_iff.mp some
  exact ⟨others, rfl, ordered.sublist among, fun place member => within place (among.mem member)⟩

/-- What was drawn from two stretches, one after the other, was drawn from both in order. -/
theorem append (first : DrawnInOrder draw low middle values)
    (second : DrawnInOrder draw middle high more) (up : low ≤ middle) (on : middle ≤ high) :
    DrawnInOrder draw low high (values ++ more) := by
  obtain ⟨places, rfl, ordered, within⟩ := first
  obtain ⟨others, rfl, orderedToo, withinToo⟩ := second
  refine ⟨places ++ others, List.map_append.symm, ?_, ?_⟩
  · refine List.pairwise_append.mpr ⟨ordered, orderedToo, fun place member other memberToo => ?_⟩
    have before := (within place member).2
    have after := (withinToo other memberToo).1
    omega
  · intro place member
    rcases List.mem_append.mp member with early | late
    · have bounds := within place early
      omega
    · have bounds := withinToo place late
      omega

/-- Each drawn value stands at a place of the stretch. -/
theorem place_of_mem (drawn : DrawnInOrder draw low high values) {value : BitVec 128}
    (member : value ∈ values) : ∃ place, low ≤ place ∧ place < high ∧ value = draw place := by
  obtain ⟨places, rfl, -, within⟩ := drawn
  obtain ⟨place, there, rfl⟩ := List.mem_map.mp member
  obtain ⟨after, before⟩ := within place there
  exact ⟨place, after, before, rfl⟩

/-- Values drawn where the supply does not repeat itself differ from each other. -/
theorem nodup (drawn : DrawnInOrder draw low high values)
    (distinct : ∀ i j, low ≤ i → i < j → j < high → draw i ≠ draw j) : values.Nodup := by
  obtain ⟨places, rfl, ordered, within⟩ := drawn
  refine List.pairwise_map.mpr (List.Pairwise.imp_of_mem ?_ ordered)
  intro place other member memberToo before
  exact distinct place other (within place member).1 before (within other memberToo).2

end DrawnInOrder
end Fieldwatch
