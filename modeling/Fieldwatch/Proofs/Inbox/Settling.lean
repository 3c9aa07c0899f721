import Mathlib.Data.List.Basic
import Fieldwatch.Proofs.Inbox.Latest
import Fieldwatch.Proofs.Inbox.Runs

/-!
# Settling

When every delivery of a run is answered, and takes in what it tells if that is later than what is
shown, the run ends with the latest of all that was told. Nothing is said here of what is shown or
where: `Shown` may be about any row.
-/
namespace Fieldwatch.Inbox

open Instant (Apart)

variable {τ : Type} {time : τ → Instant} {told? : Message → Option τ}
  {Shown : τ → World Tables → Prop} {policy : StalenessPolicy} {known told : List τ}
  {deliveries : List Delivery} {world : World Tables}

/-- What is shown once a message was taken in, if it tells anything. -/
def takenIn (time : τ → Instant) (told? : Message → Option τ) (shown : τ) (message : Message) : τ :=
  match told? message with
  | some news => later time shown news
  | none => shown

theorem Latest.append_takenIn {shown : τ} (latest : Latest time told shown) (message : Message) :
    Latest time (told ++ (told? message).toList) (takenIn time told? shown message) := by
  unfold takenIn
  cases told? message with
  | none => simpa using latest
  | some news => exact latest.append_later news

/-- What is told by news that are apart from each other and from what was shown first is apart. -/
theorem pairwise_told {α : Type} {tells? : α → Option τ} {moment : α → Instant} {tolerance : Span}
    (since : ∀ item news, tells? item = some news → time news = moment item) (first : τ)
    {items : List α} (apart : (time first :: items.map moment).Pairwise (Apart tolerance)) :
    (first :: items.filterMap tells?).Pairwise fun a b => Apart tolerance (time a) (time b) := by
  obtain ⟨ofFirst, ofOthers⟩ := List.pairwise_cons.mp apart
  rw [List.pairwise_map] at ofOthers
  rw [List.pairwise_cons, List.pairwise_filterMap]
  refine ⟨fun news member => ?_, ofOthers.imp fun apart a tellsA b tellsB => ?_⟩
  · obtain ⟨item, among, tells⟩ := List.mem_filterMap.mp member
    rw [since item news tells]
    exact ofFirst _ (List.mem_map_of_mem among)
  · rwa [since _ a tellsA, since _ b tellsB]

/-- Deliveries that each take in what they tell leave the latest of what was told before and of what
they tell. -/
theorem handleAll_latest (among : told ⊆ known)
    (start : ∃ shown, Shown shown world ∧ Latest time told shown)
    (tells : ∀ delivery ∈ deliveries, ∀ news, told? delivery.message = some news → news ∈ known)
    (step : ∀ delivery ∈ deliveries, ∀ shown ∈ known, ∀ world, Shown shown world →
      ∃ outcome after,
        handle policy delivery.message delivery.context world = (.ok outcome, after) ∧
        Shown (takenIn time told? shown delivery.message) after) :
    ∃ outcomes after, handleAll policy deliveries world = (.ok outcomes, after) ∧
      told ++ deliveries.filterMap (fun delivery => told? delivery.message) ⊆ known ∧
      ∃ shown, Shown shown after ∧ Latest time
        (told ++ deliveries.filterMap fun delivery => told? delivery.message) shown := by
  refine handleAll_of_step (fun done world =>
    told ++ done.filterMap (fun delivery => told? delivery.message) ⊆ known ∧
    ∃ shown, Shown shown world ∧
      Latest time (told ++ done.filterMap fun delivery => told? delivery.message) shown) ?_ ?_
  · simpa using ⟨among, start⟩
  · rintro done delivery member world ⟨among, shown, shows, latest⟩
    obtain ⟨outcome, after, handled, shows⟩ :=
      step delivery member shown (among latest.mem) world shows
    have grown : told ++ (done ++ [delivery]).filterMap (fun delivery => told? delivery.message) =
        told ++ done.filterMap (fun delivery => told? delivery.message) ++
          (told? delivery.message).toList := by
      simp only [List.append_assoc, List.filterMap_eq_flatMap_toList, List.flatMap_append,
        List.flatMap_singleton]
    rw [grown]
    refine ⟨outcome, after, handled, List.append_subset.mpr ⟨among, fun news new => ?_⟩,
      _, shows, latest.append_takenIn delivery.message⟩
    exact tells delivery member news (Option.mem_toList.mp new)

/-- Where what is known is apart, and each of it was shown at first or is delivered, the deliveries
leave the latest of it, whatever their order and however often each comes. -/
theorem handleAll_settles {tolerance : Span} {first last : τ} (start : Shown first world)
    (latest : Latest time (first :: known) last)
    (apart : (first :: known).Pairwise fun a b => Apart tolerance (time a) (time b))
    (all : ∀ news ∈ known, ∃ delivery ∈ deliveries, told? delivery.message = some news)
    (tells : ∀ delivery ∈ deliveries, ∀ news, told? delivery.message = some news → news ∈ known)
    (step : ∀ delivery ∈ deliveries, ∀ shown ∈ first :: known, ∀ world, Shown shown world →
      ∃ outcome after,
        handle policy delivery.message delivery.context world = (.ok outcome, after) ∧
        Shown (takenIn time told? shown delivery.message) after) :
    ∃ outcomes after, handleAll policy deliveries world = (.ok outcomes, after) ∧
      Shown last after := by
  obtain ⟨outcomes, after, run, among, shown, shows, newest⟩ :=
    handleAll_latest (by simp : [first] ⊆ first :: known) ⟨first, start, .singleton first⟩
      (fun delivery member news new => List.mem_cons_of_mem _ (tells delivery member news new)) step
  have whole : ∀ item, item ∈ [first] ++ deliveries.filterMap
      (fun delivery => told? delivery.message) ↔ item ∈ first :: known := by
    refine fun item => ⟨fun member => among member, fun member => ?_⟩
    rcases List.mem_cons.mp member with rfl | later
    · exact List.mem_cons_self
    · obtain ⟨delivery, delivered, new⟩ := all item later
      exact List.mem_append_right _ (List.mem_filterMap.mpr ⟨delivery, delivered, new⟩)
  obtain rfl := latest.unique newest whole apart
  exact ⟨outcomes, after, run, shows⟩

end Fieldwatch.Inbox
