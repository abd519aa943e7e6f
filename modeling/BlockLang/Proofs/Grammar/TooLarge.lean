import BlockLang.Proofs.Grammar.Piece
import BlockLang.Proofs.Grammar.Program

set_option relaxedAutoImplicit false
set_option autoImplicit false

/-!
# Negative integers that are too large

A minus sign is an operator, so the digits of a negative integer are read without their sign. If the
integer that they make is too large the run stops there, whatever comes later.

## Main definitions

* `BlockLang.Automaton.AwaitsNumber` — a state before a negative integer.
* `BlockLang.Automaton.LeadsToNumber` — a piece of text that leads to such a state.

## Main results

* `BlockLang.Automaton.LeadsToNumber.run_eq_error` — the run over a text in which such digits stand
  after such a piece.
* `BlockLang.Program.leadsToNumber_value` — pieces of an expression within an assignment.
-/

namespace BlockLang

namespace Automaton

variable {State : Type} {m : Automaton State} {s s' : State} {cs ds : List Char}

/-- A minus sign may come next, and then an integer, unless it is too large. -/
def AwaitsNumber (m : Automaton State) (s : State) : Prop :=
  ∃ s', m.step s (.operator .minus) = .ok s' ∧
    ∀ digits, Decimal.literal? digits.toList = none →
      m.step s' (.integer digits) = .error (.tooLarge digits)

/-- The piece of text leads from the state to where a negative integer may come. -/
def LeadsToNumber (m : Automaton State) (s : State) (cs : List Char) : Prop :=
  ∃ toks s', Writes cs toks ∧ m.Reaches s toks s' ∧ m.AwaitsNumber s'

lemma AwaitsNumber.leadsToNumber (h : m.AwaitsNumber s) : m.LeadsToNumber s [] :=
  ⟨[], s, .nil, reaches_nil s, h⟩

namespace LeadsToNumber

/-- Another piece before it, where words end in between. -/
lemma append {toks : List Token} (hcs : Writes cs toks) (hs : m.Reaches s toks s')
    (hends : EndsWords ds) (h : m.LeadsToNumber s' ds) : m.LeadsToNumber s (cs ++ ds) := by
  obtain ⟨toks', u, hds, hu, hawaits⟩ := h
  exact ⟨toks ++ toks', u, hcs.append hends hds, hs.append hu, hawaits⟩

lemma blank (h : m.LeadsToNumber s cs) : m.LeadsToNumber s (' ' :: cs) := by
  obtain ⟨toks, u, hcs, hu, hawaits⟩ := h
  exact ⟨toks, u, hcs.blank, hu, hawaits⟩

/-- A symbol before it. -/
lemma symbol {x : Terminal} {kind : Token.Kind} {text : String} (hx : x.symbol? = some (kind, text))
    (hstep : m.step s x = .ok s') (h : m.LeadsToNumber s' cs) :
    m.LeadsToNumber s (text.toList ++ cs) := by
  obtain ⟨toks, u, hcs, hu, hawaits⟩ := h
  have hterminal := (Token.terminal_eq_iff_is hx).2 (Token.is_ofChars kind text)
  exact ⟨_, u, hcs.symbol hx, ⟨s', by rwa [hterminal], hu⟩, hawaits⟩

/-- **A negative integer with too large digits is not read.** The error lies at the first of the
digits.

**Proof sketch.** After the piece and the sign the digits stand as a word, which ends where words
end, and the state there refuses it. -/
theorem run_eq_error {before digits after : String} (h : m.LeadsToNumber m.start before.toList)
    (hspells : Token.Kind.integer.Spells digits.toList)
    (hlarge : Decimal.literal? digits.toList = none) (hafter : EndsWords after.toList) :
    m.run (.ofText (before ++ ("-" ++ (digits ++ after)))) =
      .error (.integerTooLarge digits (before.length + 1)) := by
  obtain ⟨toks, s, hbefore, hs, s', hsign, hrefuses⟩ := h
  obtain ⟨hminus, hends⟩ := Terminal.spells_of_symbol? (x := .operator .minus) rfl
  have hterminal := (Token.terminal_eq_iff_is (x := .operator .minus) rfl).2
    (Token.is_ofChars .operator BinaryOp.minus.symbol)
  have hread := (hbefore _ (endsWords_cons (c := '-') _ (by simp))).append
    (.single hminus (hends (digits.toList ++ after.toList)))
  have hreaches := hs.append (reaches_single (by rwa [hterminal]))
  have hrefusal : m.step s' (Token.ofChars .integer digits.toList).terminal =
      .error (.tooLarge digits) := by
    rw [Token.terminal_eq_integer_iff.2 ⟨rfl, Token.text_ofChars _ _⟩, String.ofList_toList]
    exact hrefuses digits hlarge
  have hstops := Stops.word hread hreaches hspells
    (Token.Kind.endsBefore_of_isWordChar_eq_false hafter) hrefusal
  have htext : (before ++ ("-" ++ (digits ++ after))).toList =
      before.toList ++ BinaryOp.minus.symbol.toList ++ (digits.toList ++ after.toList) := by
    simp only [BinaryOp.symbol, String.toList_append, List.append_assoc]
  have hrun := run_of_stops (htext ▸ hstops)
  simpa [Refusal.error, BinaryOp.symbol, String.length_toList] using hrun

end LeadsToNumber

end Automaton

/-! ## Expressions and assignments -/

lemma Expression.awaitsNumber (chain : Chain) (outer : List Chain) :
    automaton.AwaitsNumber (.operand chain outer) :=
  ⟨_, rfl, fun digits h => by simp only [automaton, State.step, State.stepOperand, h]⟩

namespace Program

variable {name : String} {blocks : Blocks} {s : Expression.State} {cs : List Char}

lemma awaitsNumber_value (h : Expression.automaton.AwaitsNumber s) :
    automaton.AwaitsNumber (.value name s blocks) := by
  obtain ⟨s', hstep, hrefuses⟩ := h
  refine ⟨.value name s' blocks, ?_, fun digits hlarge => ?_⟩
  · have hsign : s.step (.operator .minus) = .ok s' := hstep
    simp only [automaton, State.step, hsign]
  · have hrefusal : s'.step (.integer digits) = .error (.tooLarge digits) := hrefuses digits hlarge
    cases s' with
    | operand chain outer =>
      simp only [automaton, State.step, hrefusal, Expression.State.finish]
    | operator term sum outer =>
      cases outer <;> simp [Expression.State.step, Expression.State.stepOperator] at hrefusal

/-- A piece of an expression leads on within an assignment as well. -/
theorem leadsToNumber_value (h : Expression.automaton.LeadsToNumber s cs) :
    automaton.LeadsToNumber (.value name s blocks) cs := by
  obtain ⟨toks, u, hcs, hu, hawaits⟩ := h
  exact ⟨toks, _, hcs, reaches_value hu, awaitsNumber_value hawaits⟩

end Program

end BlockLang
