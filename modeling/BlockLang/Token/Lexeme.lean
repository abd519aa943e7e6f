import BlockLang.Text.CharClass
import BlockLang.Token.Basic

set_option relaxedAutoImplicit false
set_option autoImplicit false

/-!
# The first word of a text

A word is as long as it can be: an integer takes all the digits that follow it, a name all the word
characters.

## Main definitions

* `BlockLang.Lexeme` — a word and the text after it.
* `BlockLang.Lexeme.first?` — the word that a text begins with.

## Main results

* `BlockLang.Lexeme.chars_append_rest` — the word and the rest make up the text.
* `BlockLang.Lexeme.chars_ne_nil` — a word is not empty.
-/

namespace BlockLang

/-- A word at the head of a text: its kind, its characters, and the text after them. -/
structure Lexeme where
  kind : Token.Kind
  chars : List Char
  rest : List Char
deriving DecidableEq, Repr

namespace Lexeme

/-- The word that a text begins with, if it begins with one. -/
def first? : List Char → Option Lexeme
  | [] => none
  | ':' :: '=' :: cs => some ⟨.sign, [':', '='], cs⟩
  | c :: cs =>
    if c.isDigit then
      some ⟨.integer, c :: cs.takeWhile Char.isDigit, cs.dropWhile Char.isDigit⟩
    else if isLetter c then
      some ⟨.identifier, c :: cs.takeWhile isWordChar, cs.dropWhile isWordChar⟩
    else
      (Token.Kind.ofSymbol? c).map fun kind => ⟨kind, [c], cs⟩

/-- The token of a word. -/
def token (w : Lexeme) : Token :=
  .ofChars w.kind w.chars

/-- A word is not empty, and it makes up the text with the rest. -/
theorem spec_of_first? {cs : List Char} {w : Lexeme} (h : first? cs = some w) :
    w.chars ≠ [] ∧ w.chars ++ w.rest = cs := by
  fun_cases first? cs with
  | case1 => simp [first?] at h
  | case2 cs =>
    simp only [first?, Option.some.injEq] at h
    simp [← h]
  | case3 c cs hne hdigit =>
    simp only [first?, hdigit, if_true, Option.some.injEq] at h
    simp [← h]
  | case4 c cs hne hdigit hletter =>
    simp only [first?, hdigit, hletter, if_false, if_true, Option.some.injEq,
      Bool.false_eq_true] at h
    simp [← h]
  | case5 c cs hne hdigit hletter =>
    simp only [first?, hdigit, hletter, if_false, Bool.false_eq_true, Option.map_eq_some_iff] at h
    obtain ⟨kind, -, rfl⟩ := h
    simp

/-- A word is not empty. -/
theorem chars_ne_nil {cs : List Char} {w : Lexeme} (h : first? cs = some w) : w.chars ≠ [] :=
  (spec_of_first? h).1

/-- The word and the rest make up the text. -/
theorem chars_append_rest {cs : List Char} {w : Lexeme} (h : first? cs = some w) :
    w.chars ++ w.rest = cs :=
  (spec_of_first? h).2

/-- What is left after a word is shorter than the text. -/
theorem length_rest_lt {cs : List Char} {w : Lexeme} (h : first? cs = some w) :
    w.rest.length < cs.length := by
  have hpos := List.length_pos_iff.2 (chars_ne_nil h)
  have hlen := congrArg List.length (chars_append_rest h)
  rw [List.length_append] at hlen
  omega

end Lexeme

end BlockLang
