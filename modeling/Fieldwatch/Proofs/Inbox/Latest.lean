import Mathlib.Data.List.Induction
import Mathlib.Data.List.Pairwise
import Fieldwatch.Proofs.Inbox.Rules
import Fieldwatch.Proofs.Time.Apart

/-!
# The latest news

A row shows what it was last told, and since when. Where news are apart from what is shown, a rule
takes them in when they are later and passes them over otherwise: neither the tolerance nor the
order in which the rule asks its questions makes a difference, and what is shown in the end is the
latest of all that was told.
-/
namespace Fieldwatch.Inbox

open Instant (Apart)

variable {τ : Type} {time : τ → Instant} {known : List τ} {shown news : τ} {tolerance : Span}

/-! ## The latest of several -/

/-- Whether something is among those known and none of them is later. -/
structure Latest (time : τ → Instant) (known : List τ) (latest : τ) : Prop where
  mem : latest ∈ known
  le : ∀ other ∈ known, time other ≤ time latest

/-- What is shown once news were taken in if they are later. -/
def later (time : τ → Instant) (shown news : τ) : τ :=
  if time shown < time news then news else shown

namespace Latest

theorem singleton (shown : τ) : Latest time [shown] shown := by
  refine ⟨List.mem_singleton_self shown, fun other member => ?_⟩
  rw [List.mem_singleton.mp member]

theorem append_later (latest : Latest time known shown) (news : τ) :
    Latest time (known ++ [news]) (later time shown news) := by
  unfold later
  split
  · next newer =>
    refine ⟨by simp, fun other member => ?_⟩
    rcases List.mem_append.mp member with old | new
    · exact le_trans (latest.le other old) (le_of_lt newer)
    · rw [List.mem_singleton.mp new]
  · next older =>
    refine ⟨List.mem_append_left _ latest.mem, fun other member => ?_⟩
    rcases List.mem_append.mp member with old | new
    · exact latest.le other old
    · rw [List.mem_singleton.mp new]
      exact not_lt.mp older

/-- Of several there is a latest. -/
theorem exists_of_cons (first : τ) (others : List τ) :
    ∃ last, Latest time (first :: others) last := by
  induction others using List.reverseRecOn with
  | nil => exact ⟨first, singleton first⟩
  | append_singleton others news ih =>
    obtain ⟨last, latest⟩ := ih
    exact ⟨_, latest.append_later news⟩

/-- Where those known are apart, only one of them is the latest, however they are listed. -/
theorem unique {listed : List τ} {last : τ} (latest : Latest time known shown)
    (other : Latest time listed last) (same : ∀ item, item ∈ listed ↔ item ∈ known)
    (apart : known.Pairwise fun a b => Apart tolerance (time a) (time b)) : last = shown := by
  have member := (same last).mp other.mem
  have equal : time last = time shown :=
    le_antisymm (latest.le last member) (other.le shown ((same shown).mpr latest.mem))
  have symm : Std.Symm fun a b => Apart tolerance (time a) (time b) := ⟨fun _ _ => Apart.symm⟩
  by_contra differ
  exact (apart.forall member latest.mem differ).ne equal

end Latest

/-! ## Taking in news -/

/-- What a rule does that takes in news: a row that it changes shows them, a row that shows them is
passed over, and so is one that shows something within the tolerance or later. -/
structure Rule.Tells {σ : Type} {kind : IdKind} (rule : Rule σ kind) (tolerance : Span)
    (shown? : σ → Option τ) (time : τ → Instant) (news : τ) : Prop where
  change : ∀ row now, shown? (rule.change row now) = some news
  shows : ∀ {row}, shown? row = some news → rule.shows row = true
  within : ∀ {row shown}, shown? row = some shown → rule.shows row = true →
    withinTolerance (time shown) (time news) tolerance = true
  outdates : ∀ {row shown}, shown? row = some shown →
    (rule.outdates row = true ↔ time news < time shown)

/-- A row takes in news that it shows already or that are apart from what it shows when they are
later, and else stays as it is. -/
theorem Rule.Tells.next {σ : Type} {kind : IdKind} {rule : Rule σ kind} {shown? : σ → Option τ}
    {row : σ} (tells : rule.Tells tolerance shown? time news) (nonneg : 0 ≤ tolerance.nanos)
    (shows : shown? row = some shown)
    (apart : shown ≠ news → Apart tolerance (time shown) (time news)) (now : Instant) :
    ∃ left, rule.next (some row) now = some left ∧
      shown? left = some (later time shown news) := by
  unfold Rule.next later
  by_cases same : shown = news
  · subst same
    refine ⟨row, by simp [tells.shows shows], ?_⟩
    rw [if_neg (lt_irrefl _), shows]
  · rcases lt_trichotomy (time shown) (time news) with newer | equal | older
    · have fresh : rule.shows row = false := by
        by_contra passed
        have within := tells.within shows (by simpa using passed)
        rw [withinTolerance_eq_false nonneg newer (apart same)] at within
        cases within
      have current : rule.outdates row = false := by
        rw [← Bool.not_eq_true, tells.outdates shows]
        exact lt_asymm newer
      refine ⟨rule.change row now, by simp [fresh, current], ?_⟩
      rw [if_pos newer, tells.change]
    · exact absurd equal (apart same).ne
    · have outdated : rule.outdates row = true := (tells.outdates shows).mpr older
      refine ⟨row, by simp [outdated], ?_⟩
      rw [if_neg (lt_asymm older), shows]

end Fieldwatch.Inbox
