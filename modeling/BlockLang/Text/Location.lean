set_option relaxedAutoImplicit false
set_option autoImplicit false

/-!
# Lines and columns

A line ends at a newline, and a carriage return right before the newline belongs to the line's end.
What follows the last newline is a line too.

## Main definitions

* `BlockLang.firstLine` — the text of the first line.
* `BlockLang.Location`, `BlockLang.locate` — the line and the column of a place in a text.
-/

namespace BlockLang

/-- The text of the first line of some characters, without the line's end. -/
def firstLine (cs : List Char) : List Char :=
  let line := cs.takeWhile (· ≠ '\n')
  if line.length < cs.length ∧ line.getLast? = some '\r' then line.dropLast else line

/-- The line and the column of a place, both counted from zero, and the text of the line. -/
structure Location where
  line : Nat
  column : Nat
  content : List Char
deriving DecidableEq, Repr

/-- Where the place after `pos` characters of a text is. -/
def locate (text : List Char) (pos : Nat) : Location :=
  let before := text.take pos
  let column := (before.reverse.takeWhile (· ≠ '\n')).length
  ⟨before.count '\n', column, firstLine (text.drop (before.length - column))⟩

end BlockLang
