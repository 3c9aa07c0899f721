import Fieldwatch.Store.Backend

/-!
# Calls on a store

What a call in two parts answers, a call whose failure is dealt with, and calls that change nothing.
-/
namespace Fieldwatch.Access

variable {σ α β : Type}

/-- A call whose first part fails, fails; otherwise the second goes on from where the first left. -/
theorem bind_apply (call : Access σ α) (next : α → Access σ β) (store : σ) :
    (call >>= next) store =
      match call store with
      | (.ok value, after) => next value after
      | (.error error, after) => (.error error, after) := by
  change (ExceptT.bindCont next (call store).1) (call store).2 = _
  rcases call store with ⟨result, after⟩
  cases result <;> rfl

/-- A call whose failure is dealt with. -/
theorem tryCatch_apply (call : Access σ α) (otherwise : StoreError → Access σ α) (store : σ) :
    tryCatch call otherwise store =
      match call store with
      | (.ok value, after) => (.ok value, after)
      | (.error error, after) => otherwise error after := by
  simp only [tryCatch, tryCatchThe, MonadExceptOf.tryCatch, ExceptT.tryCatch, ExceptT.mk, bind,
    StateT.bind]
  rcases call store with ⟨_ | value, after⟩ <;> rfl

/-- Calls that leave a store as it is find it as it is, one after the other. -/
theorem mapM_apply {call : α → Access σ β} {store : σ} {answer : α → β}
    (left : ∀ item, call item store = (.ok (answer item), store)) (items : List α) :
    items.mapM call store = (.ok (items.map answer), store) := by
  induction items with
  | nil => rfl
  | cons item rest ih =>
    rw [List.mapM_cons, bind_apply, left]
    dsimp only
    rw [bind_apply, ih]
    rfl

end Fieldwatch.Access
