import BlockLang.Proofs.Grammar.Piece
import BlockLang.Proofs.Grammar.Program

set_option relaxedAutoImplicit false
set_option autoImplicit false

/-!
# Completions

From every state some text leads on to a state in which the text may end: an operand that is to come
can be a zero, then brackets and blocks can be closed one by one. So whatever has been read without
an error can still become an expression or a program.

## Main definitions

* `BlockLang.Automaton.Leads` — some text leads from one state to another.
* `BlockLang.Automaton.Completable` — some text leads from a state to where the text may end.

## Main results

* `BlockLang.Automaton.Completable.exists_run_eq_ok` — the completion of a text that has been read.
* `BlockLang.Expression.completable`, `BlockLang.Program.completable` — all states have one.
-/

namespace BlockLang

namespace Automaton

variable {State : Type} {m : Automaton State} {s u s' : State}

/-- Some piece of text leads from one state to another. -/
def Leads (m : Automaton State) (s s' : State) : Prop :=
  ∃ cs toks, Writes cs toks ∧ m.Reaches s toks s'

lemma leads_refl (s : State) : m.Leads s s :=
  ⟨[], [], .nil, reaches_nil s⟩

/-- Two pieces are kept apart by a blank. -/
lemma Leads.trans (h : m.Leads s u) (h' : m.Leads u s') : m.Leads s s' := by
  obtain ⟨cs, toks, hcs, hu⟩ := h
  obtain ⟨cs', toks', hcs', hs'⟩ := h'
  exact ⟨_, _, hcs.append (endsWords_cons cs' (by simp)) hcs'.blank, hu.append hs'⟩

lemma leads_word {kind : Token.Kind} {word : String} (hspells : kind.Spells word.toList)
    (h : m.Reaches s [.ofChars kind word.toList] s') : m.Leads s s' :=
  ⟨_, _, .word hspells, h⟩

lemma leads_symbol (x : Terminal) {kind : Token.Kind} {text : String}
    (hx : x.symbol? = some (kind, text)) (h : m.Reaches s [.ofChars kind text.toList] s') :
    m.Leads s s' :=
  leads_word (Terminal.spells_of_symbol? hx).1 h

/-- Some piece of text leads from the state to one in which the text may end. -/
def Completable (m : Automaton State) (s : State) : Prop :=
  ∃ s' t, m.Leads s s' ∧ m.finish s' = .ok t

lemma Leads.completable (h : m.Leads s u) (hu : m.Completable u) : m.Completable s := by
  obtain ⟨s', t, hs', hfinish⟩ := hu
  exact ⟨s', t, h.trans hs', hfinish⟩

/-- A text that has been read up to a completable state is completed after a blank. -/
theorem Completable.exists_run_eq_ok {read rest : List Char} {toks : List Token}
    (h : m.Completable s) (hread : Wording rest read toks) (hs : m.Reaches m.start toks s) :
    ∃ (text : String) (t : Tree), m.run (.ofText (String.ofList read ++ " " ++ text)) = .ok t := by
  obtain ⟨s', t, ⟨cs, toks', hcs, hs'⟩, hfinish⟩ := h
  refine ⟨String.ofList cs, t, run_eq_ok_iff.2 ⟨toks ++ toks', ?_, s', hs.append hs', hfinish⟩⟩
  have hafter : Wording [] (' ' :: cs) toks' := hcs.blank [] endsWords_nil
  have hbefore : Wording (' ' :: cs ++ []) read toks :=
    hread.before_blank (blanks_space ' ' (by simp))
  simpa using hbefore.append hafter

end Automaton

/-! ## Expressions -/

namespace Expression

open State

/-- A zero can be the operand. -/
lemma leads_operator (chain : Chain) (outer : List Chain) :
    automaton.Leads (operand chain outer) (operator (chain.term (.num 0)) chain.sum outer) := by
  have hspells : Token.Kind.integer.Spells "0".toList := by simp [Token.Kind.Spells]
  exact Automaton.leads_word hspells (reaches_of_takes (.integer rfl (by decide)))

/-- A text may end once the open brackets are closed. -/
lemma completable_operator (term : Tree) (sum : Option Pending) (outer : List Chain) :
    automaton.Completable (operator term sum outer) := by
  induction outer generalizing term sum with
  | nil => exact ⟨_, _, Automaton.leads_refl _, rfl⟩
  | cons chain outer ih =>
    have hclose := reaches_of_takes
      (@Takes.closeBracket chain term sum outer _ (Token.is_ofChars .bracket ")"))
    exact (Automaton.leads_symbol .closeBracket rfl hclose).completable (ih _ _)

/-- Every unfinished expression can be completed. -/
theorem completable (s : State) : automaton.Completable s := by
  cases s with
  | operand chain outer => exact (leads_operator chain outer).completable (completable_operator ..)
  | operator term sum outer => exact completable_operator term sum outer

end Expression

/-! ## Programs -/

namespace Program

open State

lemma completable_period (b : Tree) : automaton.Completable (period b) := by
  have hperiod := reaches_of_takes (@Takes.period _ b (Token.is_ofChars .sign "."))
  exact ⟨_, b, Automaton.leads_symbol .period rfl hperiod, rfl⟩

/-- After a complete statement the open blocks can be closed. -/
lemma Ends.completable {s : State} {tree : Tree} {blocks : Blocks} (h : Ends s tree blocks) :
    automaton.Completable s := by
  have hend := Token.isKeyword_self "END"
  obtain ⟨current, outer⟩ := blocks
  induction outer generalizing current s tree with
  | nil =>
    have hlast := Automaton.leads_word Token.Kind.spells_end (reaches_of_takes (.last h hend))
    exact hlast.completable (completable_period _)
  | cons inner outer ih =>
    have hclose := Automaton.leads_word Token.Kind.spells_end (reaches_of_takes (.close h hend))
    exact hclose.completable (ih inner .block)

/-- An assignment can be completed as its expression can. -/
lemma completable_value (name : String) (expression : Expression.State) (blocks : Blocks) :
    automaton.Completable (value name expression blocks) := by
  obtain ⟨expression', e, ⟨cs, toks, hcs, hs⟩, hfinish⟩ := Expression.completable expression
  have hleads : automaton.Leads (value name expression blocks) (value name expression' blocks) :=
    ⟨cs, toks, hcs, reaches_value hs⟩
  exact hleads.completable (Ends.assignment hfinish).completable

/-- Every unfinished program can be completed. -/
theorem completable (s : State) : automaton.Completable s := by
  cases s with
  | start =>
    have hbegin := Token.isKeyword_self "BEGIN"
    have hstart := Automaton.leads_word Token.Kind.spells_begin (reaches_of_takes (.start hbegin))
    exact hstart.completable Ends.empty.completable
  | statement blocks => exact Ends.empty.completable
  | target name blocks =>
    have hassign := reaches_of_takes (@Takes.assign _ name blocks (Token.is_ofChars .sign ":="))
    exact (Automaton.leads_symbol .assign rfl hassign).completable
      (completable_value name .start blocks)
  | value name expression blocks => exact completable_value name expression blocks
  | closed b blocks => exact Ends.block.completable
  | period b => exact completable_period b
  | finished b => exact ⟨_, b, Automaton.leads_refl _, rfl⟩

end Program

end BlockLang
