import Mathlib.Tactic.SplitIfs
import Fieldwatch.Validation
import Fieldwatch.Proofs.Decimal.Value

/-!
# Reports

What a list of checks says of an input: nothing of the checks that hold, and one fault for each that
does not, in their order. A factory judges its input by such a list if it accepts exactly what
passes all of it, and refuses anything else with the report.
-/
namespace Fieldwatch

/-- What an input is held to, and the fault of one that falls short. -/
structure Check where
  holds : Prop
  fault : Fault

/-- The faults that a list of checks reports, in the order of the checks. -/
inductive Reports : List Check → List Fault → Prop
  | nil : Reports [] []
  | passed {check : Check} {checks : List Check} {faults : List Fault} (holds : check.holds)
    (rest : Reports checks faults) : Reports (check :: checks) faults
  | failed {check : Check} {checks : List Check} {faults : List Fault} (fails : ¬ check.holds)
    (rest : Reports checks faults) : Reports (check :: checks) (check.fault :: faults)

variable {check : Check} {checks more : List Check} {reported others : List Fault}

namespace Reports

theorem append (first : Reports checks reported) (second : Reports more others) :
    Reports (checks ++ more) (reported ++ others) := by
  induction first with
  | nil => exact second
  | passed holds _ ih => exact .passed holds ih
  | failed fails _ ih => exact .failed fails ih

/-- Nothing is reported of checks that hold. -/
theorem of_holds (holds : ∀ check ∈ checks, check.holds) : Reports checks [] := by
  induction checks with
  | nil => exact .nil
  | cons check checks ih =>
    obtain ⟨first, rest⟩ := List.forall_mem_cons.mp holds
    exact .passed first (ih rest)

theorem append_of_holds (reports : Reports checks reported)
    (holds : ∀ check ∈ more, check.holds) : Reports (checks ++ more) reported := by
  simpa using reports.append (of_holds holds)

theorem concat_of_holds (reports : Reports checks reported) (holds : check.holds) :
    Reports (checks ++ [check]) reported :=
  reports.append_of_holds (by simpa using holds)

theorem concat_of_fails (reports : Reports checks reported) (fails : ¬ check.holds) :
    Reports (checks ++ [check]) (reported ++ [check.fault]) :=
  reports.append (.failed fails .nil)

theorem eq_nil_iff (reports : Reports checks reported) :
    reported = [] ↔ ∀ check ∈ checks, check.holds := by
  induction reports with
  | nil => simp
  | passed holds _ ih => simp [ih, holds]
  | failed fails _ ih => simp [fails]

/-- A reported fault is that of a check that fails. -/
theorem of_mem (reports : Reports checks reported) {fault : Fault} (member : fault ∈ reported) :
    ∃ check ∈ checks, ¬ check.holds ∧ check.fault = fault := by
  induction reports with
  | nil => cases member
  | passed _ _ ih =>
    obtain ⟨check, among, failed⟩ := ih member
    exact ⟨check, .tail _ among, failed⟩
  | failed fails _ ih =>
    rcases List.mem_cons.mp member with rfl | later
    · exact ⟨_, .head _, fails, rfl⟩
    · obtain ⟨check, among, failed⟩ := ih later
      exact ⟨check, .tail _ among, failed⟩

end Reports

/-! ## Checks -/

namespace Check

/-- A number that is there is finite. -/
def finite (field : String) (value : Option Double) : Check where
  holds := ∀ x ∈ value, x.isFinite = true
  fault := ⟨field, "must be a finite number"⟩

/-- A number that is there is finite and lies between two whole numbers, both included. -/
def range (field : String) (value : Option Double) (low high : Int) : Check where
  holds := ∀ x ∈ value, x.isFinite = true ∧ low ≤ x.toRat ∧ x.toRat ≤ high
  fault := ⟨field,
    if value.any Double.isFinite then
      "must be between " ++ toString low ++ " and " ++ toString high
    else "must be a finite number"⟩

end Check

namespace Faults

variable {faults : Faults}

theorem reports_check (check : Check) (reports : Reports checks faults.toList) {failed : Bool}
    (judged : failed = true ↔ ¬ check.holds) :
    Reports (checks ++ [check])
      (faults.check failed check.fault.field check.fault.message).toList := by
  cases failed with
  | false => exact reports.concat_of_holds (not_not.mp fun fails => by simpa using judged.mpr fails)
  | true => exact reports.concat_of_fails (judged.mp rfl)

theorem reports_checkFinite (reports : Reports checks faults.toList) (field : String)
    (value : Option Double) :
    Reports (checks ++ [.finite field value]) (faults.checkFinite field value).toList := by
  have judged : value.any (fun x => !x.isFinite) = true ↔ ¬ (Check.finite field value).holds := by
    cases value <;> simp [Check.finite]
  exact reports_check (.finite field value) reports judged

/-- The bounds are compared as doubles, which are the whole numbers that they are made from. -/
theorem reports_checkRange (reports : Reports checks faults.toList) (field : String)
    (value : Option Double) (low high : Int) (lowSmall : low.natAbs < 2 ^ 53)
    (highSmall : high.natAbs < 2 ^ 53) :
    Reports (checks ++ [.range field value low high])
      (faults.checkRange field value low high).toList := by
  cases value with
  | none => exact reports.concat_of_holds (by rintro _ ⟨⟩)
  | some x =>
    rw [checkRange]
    split_ifs with infinite outside
    · have unfit : x.isFinite = false := by simpa using infinite
      have fails : ¬ (Check.range field (some x) low high).holds := fun holds => by
        simpa [unfit] using (holds x rfl).1
      have fault : (Check.range field (some x) low high).fault =
          ⟨field, "must be a finite number"⟩ := by
        simp [Check.range, unfit]
      rw [toList_push, ← fault]
      exact reports.concat_of_fails fails
    all_goals
      have finite : x.isFinite = true := by simpa using infinite
      rw [Bool.or_eq_true, Double.lt_iff finite (Double.isFinite_ofInt lowSmall),
        Double.lt_iff (Double.isFinite_ofInt highSmall) finite, Double.toRat_ofInt lowSmall,
        Double.toRat_ofInt highSmall] at outside
    · have fails : ¬ (Check.range field (some x) low high).holds := fun holds => by
        obtain ⟨-, least, greatest⟩ := holds x rfl
        rcases outside with less | more
        · exact absurd least less.not_ge
        · exact absurd greatest more.not_ge
      have fault : (Check.range field (some x) low high).fault =
          ⟨field, "must be between " ++ toString low ++ " and " ++ toString high⟩ := by
        simp [Check.range, finite]
      rw [toList_push, ← fault]
      exact reports.concat_of_fails fails
    · rw [not_or, not_lt, not_lt] at outside
      refine reports.concat_of_holds ?_
      rintro y ⟨⟩
      exact ⟨finite, outside⟩

end Faults

/-! ## Judging -/

/-- Whether a result is the judgement of a list of checks: made exactly if all of them hold, and
made well; else refused, with the report of the checks. -/
structure Judges {α : Type} (checks : List Check) (result : Except Faults α) (Made : α → Prop) :
    Prop where
  accepted_iff : (∃ made, result = .ok made) ↔ ∀ check ∈ checks, check.holds
  made : ∀ made, result = .ok made → Made made
  reported : ∀ faults, result = .error faults → Reports checks faults.toList

theorem Faults.judges_accept {α : Type} {faults : Faults} {value : α} {Made : α → Prop}
    (reports : Reports checks faults.toList) (made : Made value) :
    Judges checks (faults.accept value) Made := by
  have empty : faults.isEmpty = true ↔ ∀ check ∈ checks, check.holds := by
    rw [isEmpty, List.isEmpty_iff, reports.eq_nil_iff]
  unfold accept
  split_ifs with clear
  · refine ⟨by simpa using empty.mp clear, ?_, by simp⟩
    rintro _ ⟨⟩
    exact made
  · refine ⟨by simpa using mt empty.mpr clear, by simp, ?_⟩
    rintro _ ⟨⟩
    exact reports

end Fieldwatch
