import BlockLang.Unicode.Alphabetic
import BlockLang.Unicode.Numeric
import BlockLang.Unicode.WhiteSpace

set_option relaxedAutoImplicit false
set_option autoImplicit false

/-!
# Classes of characters

Texts are read by three classes of characters over the whole of Unicode, and by the ASCII digits
(`Char.isDigit`). A name begins with a letter and goes on with word characters; blanks separate.

## Main definitions

* `BlockLang.isLetter`, `BlockLang.isWordChar`, `BlockLang.isBlank` — the classes.

## Main results

* `BlockLang.isBlank_eq_false_of_isWordChar` — a word character is never a blank.
* `BlockLang.isLetter_eq_isAlpha`, `BlockLang.isWordChar_eq_isAlphanum_or` — letters and word
  characters within ASCII.
* `BlockLang.isLetter_of_isAlpha`, `BlockLang.isWordChar_of_isDigit`,
  `BlockLang.isBlank_of_isWhitespace` — the classes contain their ASCII counterparts.
-/

namespace BlockLang

open Unicode

/-- A letter has the property Alphabetic. -/
def isLetter (c : Char) : Bool :=
  alphabetic.has c.toNat

/-- A word character is a letter, a numeric character of any script, or the underscore. -/
def isWordChar (c : Char) : Bool :=
  isLetter c || numeric.has c.toNat || c == '_'

/-- A blank has the property White_Space. -/
def isBlank (c : Char) : Bool :=
  whiteSpace.has c.toNat

/-! ## How the classes lie to each other -/

theorem isWordChar_of_isLetter {c : Char} (h : isLetter c = true) : isWordChar c = true := by
  simp [isWordChar, h]

/-- A word character is never a blank. -/
theorem isBlank_eq_false_of_isWordChar {c : Char} (h : isWordChar c = true) :
    isBlank c = false := by
  have halpha : alphabetic.apart whiteSpace = true := by decide +kernel
  have hnum : numeric.apart whiteSpace = true := by decide +kernel
  simp only [isWordChar, isLetter, Bool.or_eq_true, beq_iff_eq] at h
  rcases h with (h | h) | rfl
  · exact Ranges.has_eq_false_of_apart halpha h
  · exact Ranges.has_eq_false_of_apart hnum h
  · decide

/-! ## The ASCII part of the classes -/

/-- A property of the first 128 code points holds of every ASCII character. -/
theorem of_ascii (p : Char → Prop) (h : ∀ n < 128, p (Char.ofNat n)) {c : Char}
    (hc : c.toNat < 128) : p c := by
  have := h c.toNat hc
  rwa [Char.ofNat_toNat] at this

theorem toNat_lt_of_isAlpha {c : Char} (h : c.isAlpha = true) : c.toNat < 128 := by
  delta Char.isAlpha Char.isUpper Char.isLower at h
  simp only [Bool.or_eq_true, Bool.and_eq_true, decide_eq_true_eq, UInt32.le_iff_toNat_le,
    ge_iff_le] at h
  change (65 ≤ c.toNat ∧ c.toNat ≤ 90) ∨ (97 ≤ c.toNat ∧ c.toNat ≤ 122) at h
  omega

theorem toNat_lt_of_isDigit {c : Char} (h : c.isDigit = true) : c.toNat < 128 := by
  delta Char.isDigit at h
  simp only [Bool.and_eq_true, decide_eq_true_eq, UInt32.le_iff_toNat_le, ge_iff_le] at h
  change 48 ≤ c.toNat ∧ c.toNat ≤ 57 at h
  omega

/-- Within ASCII the letters are those of the Latin alphabet. -/
theorem isLetter_eq_isAlpha {c : Char} (hc : c.toNat < 128) : isLetter c = c.isAlpha :=
  of_ascii (fun c => isLetter c = c.isAlpha) (by decide +kernel) hc

/-- Within ASCII the word characters are the letters, the digits and the underscore. -/
theorem isWordChar_eq_isAlphanum_or {c : Char} (hc : c.toNat < 128) :
    isWordChar c = (c.isAlphanum || c == '_') :=
  of_ascii (fun c => isWordChar c = (c.isAlphanum || c == '_')) (by decide +kernel) hc

/-- The letters of ASCII are letters. -/
theorem isLetter_of_isAlpha {c : Char} (h : c.isAlpha = true) : isLetter c = true := by
  rw [isLetter_eq_isAlpha (toNat_lt_of_isAlpha h), h]

/-- A digit is a word character. -/
theorem isWordChar_of_isDigit {c : Char} (h : c.isDigit = true) : isWordChar c = true := by
  simp [isWordChar_eq_isAlphanum_or (toNat_lt_of_isDigit h), Char.isAlphanum, h]

/-- A digit is no letter, so no name begins with one. -/
theorem isLetter_eq_false_of_isDigit {c : Char} (h : c.isDigit = true) : isLetter c = false := by
  exact of_ascii (fun c => c.isDigit = true → isLetter c = false) (by decide +kernel)
    (toNat_lt_of_isDigit h) h

/-- The white space of ASCII is blank. -/
theorem isBlank_of_isWhitespace {c : Char} (h : c.isWhitespace = true) : isBlank c = true := by
  delta Char.isWhitespace at h
  simp only [Bool.or_eq_true, decide_eq_true_eq] at h
  rcases h with ((rfl | rfl) | rfl) | rfl <;> decide

end BlockLang
