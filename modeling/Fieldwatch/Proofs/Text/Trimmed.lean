import Fieldwatch.Text.Blank

/-!
# Trimmed texts

What trimming leaves: a text that neither begins nor ends with a blank, and that is empty only when
there was nothing but blanks.
-/
namespace Fieldwatch.Text

variable {chars : List Char} {c : Char}

/-- Whether a text neither begins nor ends with a blank. -/
structure Trimmed (text : String) : Prop where
  front : ∀ c, text.toList.head? = some c → isBlank c = false
  back : ∀ c, text.toList.getLast? = some c → isBlank c = false

theorem isBlank_of_head?_trimFront (first : (trimFront chars).head? = some c) :
    isBlank c = false := by
  have visible := List.head?_dropWhile_not isBlank chars
  rw [← trimFront, first] at visible
  exact visible

/-- Trimming the front keeps the end, as long as something is left. -/
theorem getLast?_of_trimFront (last : (trimFront chars).getLast? = some c) :
    chars.getLast? = some c := by
  obtain ⟨blanks, split⟩ := List.dropWhile_suffix (l := chars) isBlank
  rw [← split, List.getLast?_append, ← trimFront, last]
  rfl

theorem trimmed_trim (text : String) : Trimmed (trim text) where
  front c first := by
    rw [toList_trim, trimChars, List.head?_reverse] at first
    have end' := getLast?_of_trimFront first
    rw [List.getLast?_reverse] at end'
    exact isBlank_of_head?_trimFront end'
  back c last := by
    rw [toList_trim, trimChars, List.getLast?_reverse] at last
    exact isBlank_of_head?_trimFront last

/-- Something is left of a text that is not blank. -/
theorem trim_ne_empty {text : String} (visible : isBlankText text = false) : trim text ≠ "" := by
  intro empty
  have nothing : trimChars text.toList = [] := by rw [← toList_trim, empty]; rfl
  rw [trimChars, List.reverse_eq_nil_iff, trimFront_eq_nil_iff, List.all_reverse] at nothing
  have gone : trimFront text.toList = [] := by
    cases front : trimFront text.toList with
    | nil => rfl
    | cons c rest =>
      have shown : isBlank c = false := isBlank_of_head?_trimFront (by rw [front]; rfl)
      simp [front, shown] at nothing
  rw [isBlankText, trimFront_eq_nil_iff.mp gone] at visible
  cases visible

/-- What is kept of a text is trimmed, and is something. -/
theorem trimmed_of_trimmed? {text kept : String} (found : trimmed? text = some kept) :
    Trimmed kept ∧ kept ≠ "" := by
  unfold trimmed? at found
  split at found
  · cases found
  · next visible =>
    cases found
    exact ⟨trimmed_trim text, trim_ne_empty (by simpa using visible)⟩

/-! ## Texts with nothing to trim -/

theorem trimFront_eq_self (visible : ∀ c, chars.head? = some c → isBlank c = false) :
    trimFront chars = chars := by
  cases chars with
  | nil => rfl
  | cons c rest => simp [trimFront, visible c rfl]

theorem trim_eq_self {text : String} (trimmed : Trimmed text) : trim text = text := by
  have front : trimFront text.toList = text.toList := trimFront_eq_self trimmed.front
  have back : trimFront text.toList.reverse = text.toList.reverse := by
    refine trimFront_eq_self fun c last => ?_
    rw [List.head?_reverse] at last
    exact trimmed.back c last
  rw [trim, trimChars, front, back, List.reverse_reverse, String.ofList_toList]

/-- Whether a text begins with something that is not blank. -/
def begins (text : String) : Bool := text.toList.head?.any (!isBlank ·)

/-- Whether a text ends with something that is not blank. -/
def ends (text : String) : Bool := text.toList.getLast?.any (!isBlank ·)

variable {first second : String}

theorem begins_append (visible : begins first = true) : begins (first ++ second) = true := by
  unfold begins at *
  rw [String.toList_append, List.head?_append]
  cases here : first.toList.head? with
  | none => simp [here] at visible
  | some c => simpa [here] using visible

theorem ends_append (visible : ends second = true) : ends (first ++ second) = true := by
  unfold ends at *
  rw [String.toList_append, List.getLast?_append]
  cases here : second.toList.getLast? with
  | none => simp [here] at visible
  | some c => simpa [here] using visible

theorem trimmed_of_ends {text : String} (front : begins text = true) (back : ends text = true) :
    Trimmed text where
  front c first := by simpa [begins, first] using front
  back c last := by simpa [ends, last] using back

end Fieldwatch.Text
