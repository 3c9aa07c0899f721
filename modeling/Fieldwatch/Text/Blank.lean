/-!
# Blank characters

The characters with the Unicode property `White_Space`, trimming by them, and texts made of
nothing else. Zero-width characters and the byte order mark are not blank.
-/
namespace Fieldwatch.Text

/-- Whether a character has the Unicode property `White_Space`. -/
def isBlank (c : Char) : Bool :=
  let code := c.toNat
  (9 ≤ code && code ≤ 13) || code == 0x20 || code == 0x85 || code == 0xa0 || code == 0x1680
    || (0x2000 ≤ code && code ≤ 0x200a) || code == 0x2028 || code == 0x2029 || code == 0x202f
    || code == 0x205f || code == 0x3000

/-- The characters left when the blanks in front are dropped. -/
def trimFront (chars : List Char) : List Char :=
  chars.dropWhile isBlank

/-- The characters left when the blanks at both ends are dropped. -/
def trimChars (chars : List Char) : List Char :=
  (trimFront (trimFront chars).reverse).reverse

/-- The text without the blanks at its ends. -/
def trim (text : String) : String :=
  String.ofList (trimChars text.toList)

/-- Whether a text holds nothing but blanks. -/
def isBlankText (text : String) : Bool :=
  text.toList.all isBlank

/-- The text trimmed, unless nothing is left of it. -/
def trimmed? (text : String) : Option String :=
  if isBlankText text then none else some (trim text)

@[simp]
theorem toList_trim (text : String) : (trim text).toList = trimChars text.toList := by
  simp [trim]

/-- Every blank that core knows is blank here. -/
theorem isBlank_of_isWhitespace {c : Char} (white : c.isWhitespace = true) : isBlank c = true := by
  simp only [Char.isWhitespace, Bool.or_eq_true, decide_eq_true_eq] at white
  rcases white with ((rfl | rfl) | rfl) | rfl <;> decide

theorem trimFront_eq_nil_iff {chars : List Char} : trimFront chars = [] ↔ chars.all isBlank := by
  induction chars with
  | nil => simp [trimFront]
  | cons c rest ih =>
    by_cases blank : isBlank c
    · simp only [trimFront, List.dropWhile_cons, blank, if_true, List.all_cons, Bool.true_and]
      exact ih
    · simp [trimFront, blank]

end Fieldwatch.Text
