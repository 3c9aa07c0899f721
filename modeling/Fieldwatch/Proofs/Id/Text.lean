import Mathlib.Algebra.Group.Nat.Defs
import Fieldwatch.Proofs.Json.RoundTrip

/-!
# Identifiers as text

The written form of an identifier is read back as the same identifier: its digits are those of the
number in base sixteen, and the hyphens stand where they are looked for.
-/
namespace Fieldwatch.Id

variable {kind : IdKind}

theorem hexValue?_hexDigit {number : Nat} (small : number < 16) :
    hexValue? (hexDigit number) = some number := by
  have all : ∀ digit : Fin 16, hexValue? (hexDigit digit) = some digit.val := by decide
  exact all ⟨number, small⟩

/-- The digits of a number in base sixteen, highest first, make up the number again, as far as they
reach. -/
theorem foldl_digits (count number : Nat) :
    ((List.range count).map fun place => number / 16 ^ (count - 1 - place) % 16).foldl
      (fun value digit => value * 16 + digit) 0 = number % 16 ^ count := by
  induction count generalizing number with
  | zero => simp [Nat.mod_one]
  | succ count ih =>
    have shifted : (List.range count).map (fun place => number / 16 ^ (count - place) % 16) =
        (List.range count).map fun place => number / 16 / 16 ^ (count - 1 - place) % 16 := by
      refine List.map_congr_left fun place member => ?_
      have below := List.mem_range.mp member
      rw [Nat.div_div_eq_div_mul, ← Nat.pow_succ',
        show (count - 1 - place).succ = count - place by omega]
    rw [List.range_succ, List.map_append, List.foldl_append]
    simp only [Nat.add_sub_cancel, List.map_cons, List.map_nil, List.foldl_cons, List.foldl_nil,
      Nat.sub_self, Nat.pow_zero, Nat.div_one]
    rw [shifted, ih, Nat.pow_succ', Nat.mod_mul]
    omega

/-- The digits of an identifier are read back. -/
theorem ofDigits?_digits (id : Id kind) : ofDigits? id.digits = some id := by
  have values : id.digits.mapM hexValue? =
      some ((List.range 32).map fun place => id.value.toNat / 16 ^ (31 - place) % 16) := by
    unfold digits
    generalize List.range 32 = places
    induction places with
    | nil => rfl
    | cons place rest ih =>
      rw [List.map_cons, List.mapM_cons, hexValue?_hexDigit (Nat.mod_lt _ (by decide)), ih]
      rfl
  have size : id.digits.length = 32 := by simp [digits]
  have whole : id.value.toNat % 16 ^ 32 = id.value.toNat := Nat.mod_eq_of_lt id.value.isLt
  rw [ofDigits?, if_pos size, values, Option.map_some, foldl_digits 32, whole]
  simp

theorem unhyphenate?_hyphenate (id : Id kind) :
    unhyphenate? (hyphenate id.digits) = some id.digits := rfl

/-- An identifier is read back from its written form. -/
theorem ofText?_text (id : Id kind) : ofText? id.text = some id := by
  have size : (hyphenate id.digits).length = 36 := rfl
  simp only [ofText?, text, String.toList_ofList, size, ofHyphenated?, unhyphenate?_hyphenate,
    Option.bind_some, ofDigits?_digits]
  rfl

instance : Json.LawfulWire (Id kind) where
  decode_encode place id := by
    simp only [Json.encode, Json.Wire.decode, ofText?_text]

instance : Json.NeverNull (Id kind) := ⟨by rintro _ ⟨⟩⟩

end Fieldwatch.Id
