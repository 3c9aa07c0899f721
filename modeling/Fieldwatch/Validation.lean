import Fieldwatch.Decimal.Notation
import Fieldwatch.Text.Quoted

/-!
# Validation

Every fault found in one input, in the order of the checks. An input is accepted when no check
failed, and a refusal lists all that did.
-/
namespace Fieldwatch

/-- One failed check: the field at fault and what is wrong with it. -/
structure Fault where
  field : String
  message : String
  deriving DecidableEq, Repr

/-- All failed checks of one input, in checking order. -/
structure Faults where
  toList : List Fault
  deriving DecidableEq, Repr

namespace Faults

def none : Faults := ⟨[]⟩

def push (faults : Faults) (field message : String) : Faults :=
  ⟨faults.toList ++ [⟨field, message⟩]⟩

/-- Records a check that fails when `failed` holds. -/
def check (faults : Faults) (failed : Bool) (field message : String) : Faults :=
  if failed then faults.push field message else faults

def isEmpty (faults : Faults) : Bool := faults.toList.isEmpty

def size (faults : Faults) : Nat := faults.toList.length

def hasField (faults : Faults) (field : String) : Bool :=
  faults.toList.any fun fault => fault.field = field

def accept {α : Type} (faults : Faults) (value : α) : Except Faults α :=
  if faults.isEmpty then .ok value else .error faults

def message (faults : Faults) : String :=
  let parts := faults.toList.map fun fault => fault.field ++ " " ++ fault.message
  if parts.isEmpty then "validation failed" else "validation failed: " ++ "; ".intercalate parts

/-- Checks that a number, if present, is finite and between two whole bounds, both included. -/
def checkRange (faults : Faults) (field : String) (value : Option Double) (low high : Int) :
    Faults :=
  match value with
  | .none => faults
  | some value =>
    if !value.isFinite then faults.push field "must be a finite number"
    else if value.lt (Double.ofInt low) || (Double.ofInt high).lt value then
      faults.push field ("must be between " ++ toString low ++ " and " ++ toString high)
    else faults

/-- Checks that a number, if present, is finite. -/
def checkFinite (faults : Faults) (field : String) (value : Option Double) : Faults :=
  faults.check (value.any fun value => !value.isFinite) field "must be a finite number"

@[simp]
theorem toList_push (faults : Faults) (field message : String) :
    (faults.push field message).toList = faults.toList ++ [⟨field, message⟩] := rfl

@[simp]
theorem toList_check (faults : Faults) (failed : Bool) (field message : String) :
    (faults.check failed field message).toList
      = faults.toList ++ if failed then [⟨field, message⟩] else [] := by
  cases failed <;> simp [check]

@[simp]
theorem toList_none : none.toList = [] := rfl

end Faults

/-- A text that names no member of a closed set of names. -/
structure UnknownName where
  /-- What was looked for. -/
  sort : String
  text : String
  deriving DecidableEq, Repr

def UnknownName.message (unknown : UnknownName) : String :=
  "Unknown " ++ unknown.sort ++ ": " ++ Text.quote unknown.text

/-- Finds a member of a closed set by its exact name. -/
def findNamed {α : Type} (sort : String) (named : List (String × α)) (text : String) :
    Except UnknownName α :=
  match named.find? fun member => member.1 = text with
  | some member => .ok member.2
  | .none => .error ⟨sort, text⟩

end Fieldwatch
