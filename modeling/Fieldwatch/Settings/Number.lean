/-!
# Written whole numbers

How a whole number of a limited size is read: decimal digits, perhaps after a plus sign. The first
character that spoils it, read from the left, decides what is wrong.
-/
namespace Fieldwatch.Settings

inductive NumberFault
  /-- A character that is no digit, or no digit at all. -/
  | invalidDigit
  /-- A number that is too large. -/
  | tooLarge
  deriving DecidableEq, Repr

/-- The wording of what is wrong with a number. -/
def NumberFault.message : NumberFault → String
  | invalidDigit => "invalid digit found in string"
  | tooLarge => "number too large to fit in target type"

/-- Reads digits after those of `value`, the number staying below a limit. -/
def digits (limit : Nat) : Nat → List Char → Except NumberFault Nat
  | value, [] => .ok value
  | value, c :: rest =>
    if !c.isDigit then .error .invalidDigit
    else
      let value := value * 10 + (c.toNat - 48)
      if value < limit then digits limit value rest else .error .tooLarge

def number (limit : Nat) (text : String) : Except NumberFault Nat :=
  match text.toList with
  | [] | ['+'] => .error .invalidDigit
  | '+' :: rest => digits limit 0 rest
  | chars => digits limit 0 chars

theorem digits_lt {limit value result : Nat} {chars : List Char} (small : value < limit)
    (read : digits limit value chars = .ok result) : result < limit := by
  induction chars generalizing value with
  | nil => cases read; exact small
  | cons c rest ih =>
    simp only [digits] at read
    split at read
    · cases read
    · split at read
      · next below => exact ih below read
      · cases read

end Fieldwatch.Settings
