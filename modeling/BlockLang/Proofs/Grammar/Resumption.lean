import BlockLang.Proofs.Grammar.Layout
import BlockLang.Proofs.Token.Place

set_option relaxedAutoImplicit false
set_option autoImplicit false

/-!
# Parsing from within a text

A text may be parsed from any place that readings have led to. What has been read is then of no
account: the rest is parsed as a text of its own, and only the places of errors are counted from the
start of the whole text.

## Main definitions

* `BlockLang.ParseError.later`, `BlockLang.TokenStream.later` — an error and a stream with more
  characters before.

## Main results

* `BlockLang.Cursor.streamAt_add` — what is to be read does not depend on what lies before.
* `BlockLang.Automaton.runFrom_later` — a run does not depend on it either.
* `BlockLang.parsing_resumes` — parsing after any number of readings.
-/

namespace BlockLang

/-- The same error with `n` more characters before it. -/
def ParseError.later (n : Nat) (err : ParseError) : ParseError :=
  err.moveTo (err.position + n)

lemma later_error (refusal : Refusal) (tok : Token) (pos n : Nat) :
    (refusal.error tok pos).later n = refusal.error tok (pos + n) := by
  cases refusal <;> rfl

/-- The same stream with `n` more characters before it. -/
def TokenStream.later (n : Nat) : TokenStream → TokenStream
  | eof pos => eof (pos + n)
  | invalid ch pos => invalid ch (pos + n)
  | token tok start rest => token tok (start + n) (rest.later n)

/-- What is still to be read at a place of a text does not depend on what lies before.

**Proof sketch.** Induction on the length of the text: after a first word the rest is shorter. -/
theorem Cursor.streamAt_add (cs : List Char) (pos n : Nat) :
    streamAt cs (pos + n) = (streamAt cs pos).later n := by
  induction hlength : cs.length using Nat.strong_induction_on generalizing cs pos with
  | _ length ih =>
    cases opening cs with
    | eof hbs =>
      rw [← List.append_nil cs, streamAt_blanks _ hbs, streamAt_blanks _ hbs,
        Nat.add_right_comm pos n, streamAt_nil, streamAt_nil]
      rfl
    | @word bs chars rest kind hbs hspells hends =>
      have hlt : rest.length < length := by
        have hpos := List.length_pos_iff.2 hspells.ne_nil
        simp only [List.length_append] at hlength
        omega
      have hrest := ih _ hlt rest (pos + bs.length + chars.length) rfl
      rw [streamAt_blanks _ hbs, streamAt_blanks _ hbs, Nat.add_right_comm pos n,
        streamAt_word _ hspells hends, streamAt_word _ hspells hends,
        Nat.add_right_comm (pos + bs.length) n, hrest]
      rfl
    | @invalid bs rest ch hbs hblank hno =>
      rw [streamAt_blanks _ hbs, streamAt_blanks _ hbs, Nat.add_right_comm pos n,
        streamAt_invalid _ hblank hno, streamAt_invalid _ hblank hno]
      rfl

namespace Automaton

variable {State : Type} (m : Automaton State)

/-- A run over the same stream with more characters before it has the same result, with its error
as much later.

**Proof sketch.** Induction on the stream. In the same state both runs refuse the same token, or
both go on in the same state. -/
theorem runFrom_later (s : State) (ts : TokenStream) (n : Nat) :
    m.runFrom s (ts.later n) = (m.runFrom s ts).mapError (ParseError.later n) := by
  induction ts generalizing s with
  | eof pos =>
    rw [TokenStream.later, runFrom, runFrom]
    rcases m.finish s with refusal | t
    · exact congrArg Except.error (later_error refusal .eof pos n).symm
    · rfl
  | invalid ch pos => rfl
  | token tok start rest ih =>
    rw [TokenStream.later, runFrom, runFrom]
    rcases m.step s tok.terminal with refusal | s'
    · exact congrArg Except.error (later_error refusal tok start n).symm
    · exact ih s'

/-- A run from a place of a text is the run over the rest of the text, with its error later. -/
lemma run_of_standsIn {cs : List Char} {c : Cursor} (h : c.StandsIn cs) :
    m.run c =
      (m.run (.ofText (String.ofList (cs.drop c.pos)))).mapError (ParseError.later c.pos) := by
  rw [run_ofText, String.toList_ofList, ← h.rest_eq, ← runFrom_later, ← Cursor.streamAt_add,
    Nat.zero_add, ← Cursor.stream_eq_streamAt _ _ c.start]
  rfl

end Automaton

/-- **Parsing resumes after any readings.** Whatever a number of readings have found, words, the end
of the text or a character that begins no word, they leave the cursor in the text. Parsing a program
from there gives the tree that the text has without the characters before the cursor, or its error,
as many characters later; and so does parsing an expression. -/
theorem parsing_resumes (text : String) (k : Nat) :
    ((Cursor.ofText text).skip k).pos ≤ text.length ∧
    Program.automaton.run ((Cursor.ofText text).skip k) =
      (parse (String.ofList (text.toList.drop ((Cursor.ofText text).skip k).pos))).mapError
        (ParseError.later ((Cursor.ofText text).skip k).pos) ∧
    Expression.automaton.run ((Cursor.ofText text).skip k) =
      (parseExpr (String.ofList (text.toList.drop ((Cursor.ofText text).skip k).pos))).mapError
        (ParseError.later ((Cursor.ofText text).skip k).pos) := by
  have hstands := Cursor.standsIn_skip text k
  have hlength := hstands.pos_add_length
  rw [String.length_toList] at hlength
  exact ⟨by omega, Program.automaton.run_of_standsIn hstands,
    Expression.automaton.run_of_standsIn hstands⟩

/-- Readings stop at a character that begins no word, and an expression from there on has its error
at this place of the whole text. -/
example : Expression.automaton.run ((Cursor.ofText "1 # 2").skip 3) =
    .error (.invalidCharacter '#' 2) := by
  decide +kernel

end BlockLang
