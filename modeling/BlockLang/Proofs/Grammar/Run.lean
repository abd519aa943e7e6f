import BlockLang.Grammar.Automaton
import BlockLang.Proofs.Token.Wording
import Mathlib.Data.List.Induction

set_option relaxedAutoImplicit false
set_option autoImplicit false

/-!
# Runs of an automaton over a text

What an automaton makes of a text is decided by the tokens of the text: it takes them one after the
other until it refuses one, and the error of the refusal lies at the place of that token.

## Main definitions

* `BlockLang.Automaton.Reaches` — the tokens taken in one state lead to another.
* `BlockLang.Automaton.Accepts` — the tokens are all taken, and the text may end after them.
* `BlockLang.Automaton.Stops` — the three ways in which a run comes to an error.

## Main results

* `BlockLang.Automaton.runFrom_wording` — a stretch of text takes a run from state to state.
* `BlockLang.Automaton.run_eq_ok_iff` — when a run gives a tree.
* `BlockLang.Automaton.run_eq_error_iff` — when a run gives an error.
-/

namespace BlockLang

namespace Cursor

/-! ## Streams and stretches of text -/

/-- Where the last reading found something does not matter to what is still to be read. -/
lemma stream_eq_of_next {c c' : Cursor} (h : c.next = c'.next) : c.stream = c'.stream := by
  rcases hn : c'.next with ⟨_ | _ | _, d⟩
  · rw [stream_of_token hn, stream_of_token (h.trans hn)]
  · rw [stream_of_eof hn, stream_of_eof (h.trans hn)]
  · rw [stream_of_invalid hn, stream_of_invalid (h.trans hn)]

/-- What is still to be read at a place of a text. -/
def streamAt (cs : List Char) (pos : Nat) : TokenStream :=
  stream ⟨cs, pos, 0⟩

lemma stream_eq_streamAt (cs : List Char) (pos start : Nat) :
    stream ⟨cs, pos, start⟩ = streamAt cs pos :=
  stream_eq_of_next rfl

variable {bs chars rest : List Char} (pos : Nat)

lemma streamAt_blanks (hbs : Blanks bs) :
    streamAt (bs ++ rest) pos = streamAt rest (pos + bs.length) := by
  refine stream_eq_of_next ?_
  simp only [next, skipBlanks, List.takeWhile_append_of_pos hbs, List.dropWhile_append_of_pos hbs,
    List.length_append, Nat.add_assoc]

lemma streamAt_word {kind : Token.Kind} (hspells : kind.Spells chars)
    (hends : kind.EndsBefore rest) :
    streamAt (chars ++ rest) pos =
      .token (.ofChars kind chars) pos (streamAt rest (pos + chars.length)) := by
  have hnext := next_word pos 0 blanks_nil hspells hends
  rw [List.nil_append] at hnext
  rw [streamAt, stream_of_token hnext, stream_eq_streamAt]
  rfl

lemma streamAt_nil : streamAt [] pos = .eof pos :=
  stream_of_eof (next_eof pos 0 blanks_nil)

lemma streamAt_invalid {ch : Char} (hblank : isBlank ch = false)
    (hno : BeginsNoWord (ch :: rest)) : streamAt (ch :: rest) pos = .invalid ch pos :=
  stream_of_invalid (next_invalid pos 0 blanks_nil hblank hno)

end Cursor

namespace Automaton

variable {State : Type} {m : Automaton State}

/-! ## Tokens taken one after the other -/

/-- The tokens, taken one after the other in the state `s`, lead to the state `s'`. -/
def Reaches (m : Automaton State) (s : State) : List Token → State → Prop
  | [], s' => s = s'
  | tok :: toks, s' => ∃ u, m.step s tok.terminal = .ok u ∧ m.Reaches u toks s'

lemma reaches_nil (s : State) : m.Reaches s [] s :=
  rfl

lemma reaches_single {s s' : State} {tok : Token} (h : m.step s tok.terminal = .ok s') :
    m.Reaches s [tok] s' :=
  ⟨s', h, rfl⟩

lemma reaches_append_iff {s s' : State} {toks toks' : List Token} :
    m.Reaches s (toks ++ toks') s' ↔ ∃ u, m.Reaches s toks u ∧ m.Reaches u toks' s' := by
  induction toks generalizing s with
  | nil => simp [Reaches]
  | cons tok toks ih =>
    simp only [List.cons_append, Reaches, ih]
    constructor
    · rintro ⟨v, hv, u, hu, hs'⟩
      exact ⟨u, ⟨v, hv, hu⟩, hs'⟩
    · rintro ⟨u, ⟨v, hv, hu⟩, hs'⟩
      exact ⟨v, hv, u, hu, hs'⟩

lemma Reaches.append {s u s' : State} {toks toks' : List Token} (h : m.Reaches s toks u)
    (h' : m.Reaches u toks' s') : m.Reaches s (toks ++ toks') s' :=
  reaches_append_iff.2 ⟨u, h, h'⟩

/-- One more token is taken. -/
lemma Reaches.snoc {s u s' : State} {toks : List Token} {tok : Token} (h : m.Reaches s toks u)
    (hstep : m.step u tok.terminal = .ok s') : m.Reaches s (toks ++ [tok]) s' :=
  h.append (reaches_single hstep)

/-- What holds of every token that some state takes holds of all tokens taken. -/
lemma Reaches.forall_taken {P : Token → Prop} {s s' : State} {toks : List Token}
    (hstep : ∀ u tok u', m.step u tok.terminal = .ok u' → P tok) (h : m.Reaches s toks s') :
    ∀ tok ∈ toks, P tok := by
  induction toks generalizing s with
  | nil => simp
  | cons tok toks ih =>
    obtain ⟨u, hu, htoks⟩ := h
    exact List.forall_mem_cons.2 ⟨hstep s tok u hu, ih htoks⟩

/-- Tokens lead to one state only. -/
lemma Reaches.unique {s u u' : State} {toks : List Token} (h : m.Reaches s toks u)
    (h' : m.Reaches s toks u') : u = u' := by
  induction toks generalizing s with
  | nil => exact Eq.trans (Eq.symm h) h'
  | cons tok toks ih =>
    obtain ⟨v, hv, hu⟩ := h
    obtain ⟨v', hv', hu'⟩ := h'
    obtain rfl : v = v' := Except.ok.inj (hv.symm.trans hv')
    exact ih hu hu'

/-- The tokens lead from the state before the first token to one in which the text may end. -/
def Accepts (m : Automaton State) (toks : List Token) (t : Tree) : Prop :=
  ∃ s, m.Reaches m.start toks s ∧ m.finish s = .ok t

/-- Accepted tokens have one tree only. -/
lemma Accepts.unique {toks : List Token} {t t' : Tree} (h : m.Accepts toks t)
    (h' : m.Accepts toks t') : t = t' := by
  obtain ⟨s, hs, hfinish⟩ := h
  obtain ⟨s', hs', hfinish'⟩ := h'
  obtain rfl := hs.unique hs'
  exact Except.ok.inj (hfinish.symm.trans hfinish')

/-- What holds of the state before the first token and is kept by every step holds of the tokens and
the state that they lead to. -/
theorem Reaches.invariant {Inv : List Token → State → Prop} {s s' : State} {toks : List Token}
    (hstart : Inv [] s)
    (hstep : ∀ taken u tok u', Inv taken u → m.step u tok.terminal = .ok u' →
      Inv (taken ++ [tok]) u')
    (h : m.Reaches s toks s') : Inv toks s' := by
  induction toks using List.reverseRecOn generalizing s' with
  | nil =>
    obtain rfl : s = s' := h
    exact hstart
  | append_singleton toks tok ih =>
    obtain ⟨u, hu, u', hu', rfl⟩ := reaches_append_iff.1 h
    exact hstep toks u tok u' (ih hu) hu'

/-- Either all tokens are taken or there is a first one that is refused. -/
lemma reaches_or_refuses (m : Automaton State) (s : State) (toks : List Token) :
    (∃ s', m.Reaches s toks s') ∨
      ∃ taken tok later s' refusal, toks = taken ++ tok :: later ∧ m.Reaches s taken s' ∧
        m.step s' tok.terminal = .error refusal := by
  induction toks generalizing s with
  | nil => exact Or.inl ⟨s, reaches_nil s⟩
  | cons tok toks ih =>
    rcases hstep : m.step s tok.terminal with refusal | u
    · exact Or.inr ⟨[], tok, toks, s, refusal, rfl, reaches_nil s, hstep⟩
    · rcases ih u with ⟨s', hs'⟩ | ⟨taken, tok', later, s', refusal, rfl, htaken, hrefuses⟩
      · exact Or.inl ⟨s', u, hstep, hs'⟩
      · exact Or.inr ⟨tok :: taken, tok', later, s', refusal, rfl, ⟨u, hstep, htaken⟩, hrefuses⟩

/-! ## Runs over a text -/

/-- A stretch of text takes a run from state to state. -/
theorem runFrom_wording {cs rest : List Char} {toks : List Token} {s s' : State}
    (hcs : Wording rest cs toks) (hs : m.Reaches s toks s') (pos : Nat) :
    m.runFrom s (Cursor.streamAt (cs ++ rest) pos) =
      m.runFrom s' (Cursor.streamAt rest (pos + cs.length)) := by
  induction hcs generalizing s pos with
  | blanks hbs =>
    obtain rfl : s = s' := hs
    rw [Cursor.streamAt_blanks pos hbs]
  | @word bs chars cs kind toks hbs hspells hends tail ih =>
    obtain ⟨u, hu, hs'⟩ := hs
    simp only [List.append_assoc, List.length_append]
    rw [Cursor.streamAt_blanks pos hbs, Cursor.streamAt_word _ hspells hends, runFrom]
    simp only [hu]
    rw [ih hs', Nat.add_assoc, Nat.add_assoc]

lemma run_ofText (m : Automaton State) (text : String) :
    m.run (.ofText text) = m.runFrom m.start (Cursor.streamAt text.toList 0) :=
  rfl

lemma run_of_accepts {text : String} {toks : List Token} {t : Tree}
    (htext : Wording [] text.toList toks) (h : m.Accepts toks t) :
    m.run (.ofText text) = .ok t := by
  obtain ⟨s, hs, hfinish⟩ := h
  have hrun := runFrom_wording htext hs 0
  rw [List.append_nil, Nat.zero_add, Cursor.streamAt_nil] at hrun
  simp only [run_ofText, hrun, runFrom, hfinish, Except.mapError]

/-- How a run over a text comes to an error after it has read a part of the text: the end of the
text is refused, a character begins no word, or a word is refused. -/
inductive Stops (m : Automaton State) : List Char → Reading → ParseError → Prop where
  | eof {read : List Char} {toks : List Token} {s : State} {refusal : Refusal}
      (hread : Wording [] read toks) (hs : m.Reaches m.start toks s)
      (hrefuses : m.finish s = .error refusal) :
      Stops m read .eof (refusal.error .eof read.length)
  | invalid {read rest : List Char} {toks : List Token} {s : State} {ch : Char}
      (hread : Wording (ch :: rest) read toks) (hs : m.Reaches m.start toks s)
      (hblank : isBlank ch = false) (hno : BeginsNoWord (ch :: rest)) :
      Stops m (read ++ ch :: rest) (.invalid ch) (.invalidCharacter ch read.length)
  | word {read chars rest : List Char} {toks : List Token} {s : State} {kind : Token.Kind}
      {refusal : Refusal} (hread : Wording (chars ++ rest) read toks)
      (hs : m.Reaches m.start toks s) (hspells : kind.Spells chars) (hends : kind.EndsBefore rest)
      (hrefuses : m.step s (Token.ofChars kind chars).terminal = .error refusal) :
      Stops m (read ++ (chars ++ rest)) (.token (.ofChars kind chars))
        (refusal.error (.ofChars kind chars) read.length)

lemma run_of_stops {text : String} {r : Reading} {err : ParseError}
    (h : m.Stops text.toList r err) : m.run (.ofText text) = .error err := by
  rw [run_ofText]
  generalize text.toList = cs at h
  cases h with
  | eof hread hs hrefuses =>
    have hrun := runFrom_wording hread hs 0
    rw [List.append_nil, Nat.zero_add, Cursor.streamAt_nil] at hrun
    simp only [hrun, runFrom, hrefuses, Except.mapError]
  | invalid hread hs hblank hno =>
    rw [runFrom_wording hread hs, Nat.zero_add, Cursor.streamAt_invalid _ hblank hno, runFrom]
  | word hread hs hspells hends hrefuses =>
    rw [runFrom_wording hread hs, Nat.zero_add, Cursor.streamAt_word _ hspells hends, runFrom]
    simp only [hrefuses]

/-- Over every text a run comes to an error, or it accepts all of the text.

**Proof sketch.** All of the text is read as tokens, up to its end or to a character that begins no
word. If one of these tokens is refused the run stops before it, at the split of the text there. -/
theorem stops_or_accepts (m : Automaton State) (cs : List Char) :
    (∃ r err, m.Stops cs r err) ∨ ∃ toks t, Wording [] cs toks ∧ m.Accepts toks t := by
  obtain ⟨read, toks, rest, rfl, hread, hrest⟩ := exists_wording cs
  rcases reaches_or_refuses m m.start toks with
    ⟨s, hs⟩ | ⟨taken, tok, later, s, refusal, rfl, hs, hrefuses⟩
  · rcases hrest with rfl | ⟨ch, tail, rfl, hblank, hno⟩
    · rw [List.append_nil]
      rcases hfinish : m.finish s with refusal | t
      · exact Or.inl ⟨_, _, .eof hread hs hfinish⟩
      · exact Or.inr ⟨toks, t, hread, s, hs, hfinish⟩
    · exact Or.inl ⟨_, _, .invalid hread hs hblank hno⟩
  · obtain ⟨before, after, rfl, hbefore, hafter⟩ := hread.exists_split
    -- The blanks before the refused word belong to the part that has been read.
    cases hafter with
    | @word bs chars cs kind _ hbs hspells hends tail =>
      have hread' : Wording (chars ++ (cs ++ rest)) (before ++ bs) taken := by
        have hblanks : Wording (chars ++ (cs ++ rest)) bs [] := .blanks hbs
        simpa using Wording.append (by simpa using hbefore) hblanks
      have hstops := Stops.word hread' hs hspells hends hrefuses
      exact Or.inl ⟨_, _, by simpa using hstops⟩

/-- **Runs that give a tree.** All of the text is read as tokens that are accepted. -/
theorem run_eq_ok_iff {text : String} {t : Tree} :
    m.run (.ofText text) = .ok t ↔ ∃ toks, Wording [] text.toList toks ∧ m.Accepts toks t := by
  constructor
  · intro hrun
    rcases stops_or_accepts m text.toList with ⟨r, err, hstops⟩ | ⟨toks, t', htext, haccepts⟩
    · rw [run_of_stops hstops] at hrun
      cases hrun
    · rw [run_of_accepts htext haccepts] at hrun
      cases hrun
      exact ⟨toks, htext, haccepts⟩
  · rintro ⟨toks, htext, haccepts⟩
    exact run_of_accepts htext haccepts

/-- **Runs that give an error.** They stop in one of the three ways. -/
theorem run_eq_error_iff {text : String} {err : ParseError} :
    m.run (.ofText text) = .error err ↔ ∃ r, m.Stops text.toList r err := by
  refine ⟨fun hrun => ?_, fun ⟨r, hstops⟩ => run_of_stops hstops⟩
  rcases stops_or_accepts m text.toList with ⟨r, err', hstops⟩ | ⟨toks, t, htext, haccepts⟩
  · rw [run_of_stops hstops] at hrun
    cases hrun
    exact ⟨r, hstops⟩
  · rw [run_of_accepts htext haccepts] at hrun
    cases hrun

end Automaton

end BlockLang
