import BlockLang.Proofs.Grammar.FirstError
import BlockLang.Proofs.Tree.Reparse

set_option relaxedAutoImplicit false
set_option autoImplicit false

/-!
# What an error says is expected

Where a token or the end of a text is refused, the error names what is wanted in its place. This is
no empty promise: after what has been read the named thing is accepted, and the text can go on from
there to one that parses. What a state asks for is told by the state alone, so it is enough to see
that each state takes what it asks for; from the next state there is a completion.

## Main definitions

* `BlockLang.Honours` — a parser accepts what it says is expected after some text.
* `BlockLang.Automaton.GetsOver` — a piece of text is read from a state on.
* `BlockLang.Automaton.Serves` — a state takes what it asks for.
* `BlockLang.Expression.Wants`, `BlockLang.Program.Wants` — what the states ask for.

## Main results

* `BlockLang.Expression.wants_of_step`, `BlockLang.Program.wants_of_step` — a refusal names what the
  state asks for.
* `BlockLang.Expression.Wants.serves`, `BlockLang.Program.Wants.serves` — it would be taken.
* `BlockLang.expected_is_accepted` — what the errors of parsing say is expected.
-/

namespace BlockLang

/-- The word that an expectation names between backquotes, if it names one. -/
def Expectation.word? : Expectation → Option String
  | blockBegin => some "BEGIN"
  | blockEnd => some "END"
  | assign => some ":="
  | period => some "."
  | closeBracket => some ")"
  | expression | variableName | endOfInput => none

namespace Expectation

/-- Every text that names what is wanted. -/
def texts : List String :=
  ["`BEGIN`", "`END`", "`:=`", "`.`", "`)`", "expression", "variable", "end of input"]

lemma text_mem_texts (what : Expectation) : what.text ∈ texts := by
  cases what <;> simp [text, texts]

/-- Only words are named between backquotes. -/
lemma text_eq_quoted_iff {what : Expectation} {word : String} :
    what.text = "`" ++ word ++ "`" ↔ what.word? = some word := by
  have hquoted (w : String) : "`" ++ w ++ "`" = "`" ++ word ++ "`" ↔ w = word := by
    simp [← String.toList_inj]
  cases what with
  | expression | variableName | endOfInput => simp [text, word?, ← String.toList_inj]
  | blockBegin => simpa [text, word?] using hquoted "BEGIN"
  | blockEnd => simpa [text, word?] using hquoted "END"
  | assign => simpa [text, word?] using hquoted ":="
  | period => simpa [text, word?] using hquoted "."
  | closeBracket => simpa [text, word?] using hquoted ")"

lemma text_eq_endOfInput_iff {what : Expectation} :
    what.text = "end of input" ↔ what = .endOfInput := by
  cases what <;> simp [text]

lemma text_eq_operand_iff {what : Expectation} :
    what.text = "expression" ∨ what.text = "variable" ↔
      what = .expression ∨ what = .variableName := by
  cases what <;> simp [text]

end Expectation

/-- The parser accepts after the text what it says is expected there: a word between backquotes, or
the end, or an operand, which is any expression in brackets and any name but the keyword `END`. -/
structure Honours (parser : String → Except ParseError Tree) (before expected : String) : Prop where
  known : expected ∈ Expectation.texts
  word : ∀ word, expected = "`" ++ word ++ "`" →
    ∃ after t, parser (before ++ " " ++ word ++ " " ++ after) = .ok t
  ending : expected = "end of input" → ∃ t, parser before = .ok t
  bracket : expected = "expression" ∨ expected = "variable" → ∀ text e, parseExpr text = .ok e →
    ∃ after t, parser (before ++ " (" ++ text ++ ") " ++ after) = .ok t
  name : expected = "expression" ∨ expected = "variable" → ∀ name, IsName name →
    Token.foldCase name ≠ Token.foldCase "END" →
      ∃ after t, parser (before ++ " " ++ name ++ " " ++ after) = .ok t

namespace Automaton

variable {State : Type} {m : Automaton State} {s s' : State} {cs : List Char}

/-- The piece of text is read from the state on. -/
def GetsOver (m : Automaton State) (s : State) (cs : List Char) : Prop :=
  ∃ toks s', Writes cs toks ∧ m.Reaches s toks s'

lemma getsOver_word {kind : Token.Kind} {word : String} (hspells : kind.Spells word.toList)
    (h : m.Reaches s [.ofChars kind word.toList] s') : m.GetsOver s word.toList :=
  ⟨_, _, .word hspells, h⟩

lemma getsOver_symbol (x : Terminal) {kind : Token.Kind} {text : String}
    (hx : x.symbol? = some (kind, text)) (h : m.Reaches s [.ofChars kind text.toList] s') :
    m.GetsOver s text.toList :=
  getsOver_word (Terminal.spells_of_symbol? hx).1 h

/-- The state takes what it asks for: a word, the end of the text, or any operand. -/
structure Serves (m : Automaton State) (s : State) (what : Expectation) : Prop where
  word : ∀ word, what.word? = some word → m.GetsOver s word.toList
  ending : what = .endOfInput → ∃ t, m.finish s = .ok t
  operand : what = .expression ∨ what = .variableName →
    ∀ cs e, Expression.Written .factor cs e → m.GetsOver s cs

lemma serves_of_word {what : Expectation} {word : String} (hword : what.word? = some word)
    (h : m.GetsOver s word.toList) : m.Serves s what := by
  refine ⟨fun word' hword' => ?_, ?_, ?_⟩
  · obtain rfl : word = word' := Option.some.inj (hword.symm.trans hword')
    exact h
  · rintro rfl
    cases hword
  · rintro (rfl | rfl) <;> cases hword

/-- What has been read goes on after a blank with a piece that the automaton gets over, and can then
be completed. -/
lemma GetsOver.exists_run_eq_ok (hm : ∀ s, m.Completable s) {read rest : List Char}
    {toks : List Token} (hread : Wording rest read toks) (hs : m.Reaches m.start toks s)
    (h : m.GetsOver s cs) :
    ∃ (after : String) (t : Tree),
      m.run (.ofText (String.ofList read ++ " " ++ String.ofList cs ++ " " ++ after)) = .ok t := by
  obtain ⟨toks', s', hcs, hs'⟩ := h
  have hafter : Wording [] (' ' :: cs) toks' := hcs.blank [] endsWords_nil
  have hbefore : Wording (' ' :: cs ++ []) read toks :=
    hread.before_blank (blanks_space ' ' (by simp))
  obtain ⟨after, t, hrun⟩ :=
    (hm s').exists_run_eq_ok (hbefore.append hafter) (hs.append hs')
  have htext : String.ofList (read ++ ' ' :: cs) = String.ofList read ++ " " ++ String.ofList cs :=
    String.toList_inj.1 (by simp)
  rw [htext] at hrun
  exact ⟨after, t, hrun⟩

/-- Where a state takes what it asks for the parser accepts it. -/
lemma Serves.honours (hm : ∀ s, m.Completable s) {read rest : List Char} {toks : List Token}
    {what : Expectation} (hread : Wording rest read toks) (hs : m.Reaches m.start toks s)
    (h : m.Serves s what) :
    Honours (fun text => m.run (.ofText text)) (String.ofList read) what.text := by
  have hoperand (hwhat : what.text = "expression" ∨ what.text = "variable") (cs : List Char)
      (e : Tree) (hcs : Expression.Written .factor cs e) : m.GetsOver s cs :=
    h.operand (Expectation.text_eq_operand_iff.1 hwhat) cs e hcs
  refine ⟨what.text_mem_texts, fun word hword => ?_, fun hending => ?_, fun hwhat text e he => ?_,
    fun hwhat name hname hend => ?_⟩
  · have hgets := h.word word (Expectation.text_eq_quoted_iff.1 hword)
    simpa using hgets.exists_run_eq_ok hm hread hs
  · obtain ⟨t, ht⟩ := h.ending (Expectation.text_eq_endOfInput_iff.1 hending)
    refine ⟨t, run_eq_ok_iff.2 ⟨toks, ?_, s, hs, ht⟩⟩
    have hread' : Wording [] read toks := hread.of_rest fun kind _ => Token.Kind.endsBefore_nil kind
    simpa using hread'
  · obtain ⟨toks, htext, hderives⟩ := parseExpr_eq_ok_iff.1 he
    have hcs := Expression.written_bracket ⟨toks, htext.writes, hderives⟩
    obtain ⟨after, t, hrun⟩ := (hoperand hwhat _ e hcs).exists_run_eq_ok hm hread hs
    have hbracket : String.ofList read ++ " (" ++ text ++ ") " ++ after = String.ofList read ++ " " ++
        String.ofList ("(".toList ++ (text.toList ++ ")".toList)) ++ " " ++ after :=
      String.toList_inj.1 (by simp)
    exact ⟨after, t, by rw [hbracket, hrun]⟩
  · have hgets := hoperand hwhat name.toList _ (Expression.written_var hname hend)
    simpa using hgets.exists_run_eq_ok hm hread hs

/-- What must be known of an automaton to trust its errors: every state has a completion, and if it
refuses something for want of something else, it takes that. -/
structure IsHonest (m : Automaton State) : Prop where
  completable : ∀ s, m.Completable s
  step_expected : ∀ s x what, m.step s x = .error (.expected what) → m.Serves s what
  finish_expected : ∀ s what, m.finish s = .error (.expected what) → m.Serves s what

/-- Such an automaton accepts what its errors say is expected. -/
theorem IsHonest.honours (hm : m.IsHonest) {text expected found : String} {pos : Nat}
    (h : m.run (.ofText text) = .error (.unexpected expected found pos)) :
    Honours (fun text => m.run (.ofText text)) (String.ofList (text.toList.take pos)) expected := by
  obtain ⟨r, hstops⟩ := run_eq_error_iff.1 h
  generalize text.toList = cs at hstops
  generalize herr : ParseError.unexpected expected found pos = err at hstops
  cases hstops with
  | @eof read toks s refusal hread hs hrefuses =>
    cases refusal with
    | tooLarge => cases herr
    | expected what =>
      obtain ⟨rfl, -, rfl⟩ := ParseError.unexpected.inj herr
      rw [List.take_length]
      exact (hm.finish_expected s what hrefuses).honours hm.completable hread hs
  | invalid => cases herr
  | @word read chars rest toks s kind refusal hread hs hspells hends hrefuses =>
    cases refusal with
    | tooLarge => cases herr
    | expected what =>
      obtain ⟨rfl, -, rfl⟩ := ParseError.unexpected.inj herr
      rw [List.take_left]
      exact (hm.step_expected s _ what hrefuses).honours hm.completable hread hs

end Automaton

/-! ## Expressions -/

namespace Expression

open State

variable {s : State} {what : Expectation}

/-- What the states ask for: an operand where one is to come, and after a term the closing bracket
or the end. -/
inductive Wants : State → Expectation → Prop where
  | operand {chain : Chain} {outer : List Chain} {what : Expectation}
      (hwhat : what = .expression ∨ what = .variableName) : Wants (operand chain outer) what
  | closeBracket {term : Tree} {sum : Option Pending} {chain : Chain} {outer : List Chain} :
      Wants (operator term sum (chain :: outer)) .closeBracket
  | endOfInput {term : Tree} {sum : Option Pending} : Wants (operator term sum []) .endOfInput

lemma wants_of_step {x : Terminal} (h : s.step x = .error (.expected what)) : Wants s what := by
  cases s with
  | operand chain outer =>
    refine .operand ?_
    cases x with
    | integer ds =>
      rcases hliteral : Decimal.literal? ds.toList with _ | v <;>
        simp [State.step, stepOperand, hliteral] at h
    | operator op =>
      rcases hsign : op.sign? with _ | sign
      · exact Or.inl (by simpa [State.step, stepOperand, hsign, eq_comm] using h)
      · simp [State.step, stepOperand, hsign] at h
    | blockEnd =>
      exact Or.inr (by simpa [State.step, stepOperand, eq_comm] using h)
    | name | blockBegin | openBracket => simp [State.step, stepOperand] at h
    | assign | semicolon | period | closeBracket | other =>
      exact Or.inl (by simpa [State.step, stepOperand, eq_comm] using h)
  | operator term sum outer =>
    cases outer with
    | nil =>
      cases x with
      | operator op => cases op <;> simp [State.step, stepOperator] at h
      | _ =>
        obtain rfl : .endOfInput = what := by simpa [State.step, stepOperator] using h
        exact .endOfInput
    | cons chain outer =>
      cases x with
      | operator op => cases op <;> simp [State.step, stepOperator] at h
      | closeBracket => simp [State.step, stepOperator] at h
      | _ =>
        obtain rfl : .closeBracket = what := by simpa [State.step, stepOperator] using h
        exact .closeBracket

lemma wants_of_finish (h : s.finish = .error (.expected what)) : Wants s what := by
  cases s with
  | operand chain outer =>
    exact .operand (Or.inl (by simpa [State.finish, eq_comm] using h))
  | operator term sum outer =>
    cases outer with
    | nil => simp [State.finish] at h
    | cons chain outer =>
      obtain rfl : .closeBracket = what := by simpa [State.finish] using h
      exact .closeBracket

/-- What a state asks for it takes. -/
theorem Wants.serves (h : Wants s what) : automaton.Serves s what := by
  cases h with
  | @operand chain outer what hwhat =>
    refine ⟨?_, ?_, ?_⟩
    · rcases hwhat with rfl | rfl <;> simp [Expectation.word?]
    · rcases hwhat with rfl | rfl <;> simp
    · rintro - cs e ⟨toks, hcs, he⟩
      exact ⟨toks, _, hcs, he.reaches chain outer⟩
  | @closeBracket term sum chain outer =>
    have hclose := reaches_of_takes
      (@Takes.closeBracket chain term sum outer _ (Token.is_ofChars .bracket ")"))
    exact Automaton.serves_of_word rfl (Automaton.getsOver_symbol .closeBracket rfl hclose)
  | endOfInput => exact ⟨by simp [Expectation.word?], fun _ => ⟨_, rfl⟩, by simp⟩

lemma isHonest : automaton.IsHonest where
  completable := completable
  step_expected _ _ _ h := (wants_of_step h).serves
  finish_expected _ _ h := (wants_of_finish h).serves

end Expression

/-! ## Programs -/

namespace Program

open State

variable {s : State} {what : Expectation}

/-- What the states ask for. Within an assignment it is what the expression asks for; where the
expression may end, the block may too. -/
inductive Wants : State → Expectation → Prop where
  | blockBegin : Wants start .blockBegin
  | blockEnd {s : State} {tree : Tree} {blocks : Blocks} (h : Ends s tree blocks) :
      Wants s .blockEnd
  | assign {name : String} {blocks : Blocks} : Wants (target name blocks) .assign
  | value {name : String} {expression : Expression.State} {blocks : Blocks} {what : Expectation}
      (h : Expression.Wants expression what) (hwhat : what ≠ .endOfInput) :
      Wants (value name expression blocks) what
  | period {b : Tree} : Wants (period b) .period
  | endOfInput {b : Tree} : Wants (finished b) .endOfInput

lemma eq_blockEnd_of_afterStatement {blocks : Blocks} {tree : Tree} {x : Terminal}
    (h : afterStatement blocks tree x = .error (.expected what)) : what = .blockEnd := by
  cases x with
  | semicolon => simp [afterStatement] at h
  | blockEnd => rcases blocks with ⟨current, _ | ⟨inner, outer⟩⟩ <;> simp [afterStatement] at h
  | _ =>
    simpa [afterStatement, eq_comm] using h

/-- An expression that may not end asks for something else than the end. -/
lemma wants_value {name : String} {expression : Expression.State} {blocks : Blocks}
    {refusal : Refusal} (hfinish : expression.finish = .error refusal)
    (h : Expression.Wants expression what) : Wants (value name expression blocks) what := by
  refine .value h ?_
  rintro rfl
  cases h with
  | operand hwhat => simp at hwhat
  | endOfInput => simp [Expression.State.finish] at hfinish

lemma wants_of_step {x : Terminal} (h : s.step x = .error (.expected what)) : Wants s what := by
  cases s with
  | start =>
    cases x with
    | blockBegin => simp [step] at h
    | _ =>
      obtain rfl : .blockBegin = what := by simpa [step] using h
      exact .blockBegin
  | statement blocks =>
    cases x with
    | blockBegin | name => simp [step] at h
    | _ =>
      simp only [step] at h
      rw [eq_blockEnd_of_afterStatement h]
      exact .blockEnd .empty
  | target name blocks =>
    cases x with
    | assign => simp [step] at h
    | _ =>
      obtain rfl : .assign = what := by simpa [step] using h
      exact .assign
  | value name expression blocks =>
    rcases hstep : expression.step x with refusal | expression'
    · rcases hfinish : expression.finish with refusal' | e
      · simp only [step, hstep, hfinish, Except.error.injEq] at h
        rw [h] at hstep
        exact wants_value hfinish (Expression.wants_of_step hstep)
      · simp only [step, hstep, hfinish] at h
        rw [eq_blockEnd_of_afterStatement h]
        exact .blockEnd (.assignment hfinish)
    · simp [step, hstep] at h
  | closed b blocks =>
    rw [eq_blockEnd_of_afterStatement h]
    exact .blockEnd .block
  | period b =>
    cases x with
    | period => simp [step] at h
    | _ =>
      obtain rfl : .period = what := by simpa [step] using h
      exact .period
  | finished b =>
    obtain rfl : .endOfInput = what := by simpa [step] using h
    exact .endOfInput

lemma wants_of_finish (h : s.finish = .error (.expected what)) : Wants s what := by
  cases s with
  | value name expression blocks =>
    rcases hfinish : expression.finish with refusal | e
    · simp only [State.finish, hfinish, Except.error.injEq] at h
      exact wants_value hfinish (Expression.wants_of_finish (h ▸ hfinish))
    · obtain rfl : .blockEnd = what := by simpa [State.finish, hfinish] using h
      exact .blockEnd (.assignment hfinish)
  | finished b => simp [State.finish] at h
  | start =>
    obtain rfl : .blockBegin = what := by simpa [State.finish] using h
    exact .blockBegin
  | statement blocks =>
    obtain rfl : .blockEnd = what := by simpa [State.finish] using h
    exact .blockEnd .empty
  | target name blocks =>
    obtain rfl : .assign = what := by simpa [State.finish] using h
    exact .assign
  | closed b blocks =>
    obtain rfl : .blockEnd = what := by simpa [State.finish] using h
    exact .blockEnd .block
  | period b =>
    obtain rfl : .period = what := by simpa [State.finish] using h
    exact .period

/-- What an expression gets over its assignment gets over. -/
lemma getsOver_value {expression : Expression.State} {cs : List Char} (name : String)
    (blocks : Blocks) (h : Expression.automaton.GetsOver expression cs) :
    automaton.GetsOver (value name expression blocks) cs := by
  obtain ⟨toks, expression', hcs, hs⟩ := h
  exact ⟨toks, _, hcs, reaches_value hs⟩

/-- After a complete statement the block may end. -/
lemma Ends.getsOver {tree : Tree} {blocks : Blocks} (h : Ends s tree blocks) :
    automaton.GetsOver s "END".toList := by
  have hend := Token.isKeyword_self "END"
  obtain ⟨current, _ | ⟨inner, outer⟩⟩ := blocks
  · exact Automaton.getsOver_word Token.Kind.spells_end (reaches_of_takes (.last h hend))
  · exact Automaton.getsOver_word Token.Kind.spells_end (reaches_of_takes (.close h hend))

/-- What a state asks for it takes. -/
theorem Wants.serves (h : Wants s what) : automaton.Serves s what := by
  cases h with
  | blockBegin =>
    have hbegin := reaches_of_takes (.start (Token.isKeyword_self "BEGIN"))
    exact Automaton.serves_of_word rfl (Automaton.getsOver_word Token.Kind.spells_begin hbegin)
  | blockEnd hends => exact Automaton.serves_of_word rfl hends.getsOver
  | @assign name blocks =>
    have hassign := reaches_of_takes (@Takes.assign _ name blocks (Token.is_ofChars .sign ":="))
    exact Automaton.serves_of_word rfl (Automaton.getsOver_symbol .assign rfl hassign)
  | @value name expression blocks what he hwhat =>
    have hserves := he.serves
    refine ⟨fun word hword => getsOver_value name blocks (hserves.word word hword),
      fun hend => absurd hend hwhat, fun hoperand cs e hcs => ?_⟩
    exact getsOver_value name blocks (hserves.operand hoperand cs e hcs)
  | @period b =>
    have hperiod := reaches_of_takes (@Takes.period _ b (Token.is_ofChars .sign "."))
    exact Automaton.serves_of_word rfl (Automaton.getsOver_symbol .period rfl hperiod)
  | endOfInput => exact ⟨by simp [Expectation.word?], fun _ => ⟨_, rfl⟩, by simp⟩

lemma isHonest : automaton.IsHonest where
  completable := completable
  step_expected _ _ _ h := (wants_of_step h).serves
  finish_expected _ _ h := (wants_of_finish h).serves

end Program

/-- **What is expected would have been accepted.** If an error of parsing says that something is
expected where it lies, then the text up to there goes on with that to one that parses: with a word
that the error names and some text, with nothing if it says that the end is expected, and with any
expression in brackets or any name, and some text, if it says that an operand is. -/
theorem expected_is_accepted (text expected found : String) (pos : Nat) :
    (parse text = .error (.unexpected expected found pos) →
      Honours parse (String.ofList (text.toList.take pos)) expected) ∧
    (parseExpr text = .error (.unexpected expected found pos) →
      Honours parseExpr (String.ofList (text.toList.take pos)) expected) :=
  ⟨Program.isHonest.honours, Expression.isHonest.honours⟩

/-- A bracket is not closed within an assignment in an inner block, and an operand is missing after
signs and an operation. -/
theorem expected_is_accepted_in_brackets :
    (parse "BEGIN BEGIN x := 2 * (y END END." = .error (.unexpected "`)`" "identifier `END`" 24) ∧
      Honours parse "BEGIN BEGIN x := 2 * (y " "`)`") ∧
    parseExpr "1 - -+ / 2" = .error (.unexpected "expression" "`/`" 7) ∧
      Honours parseExpr "1 - -+ " "expression" := by
  have hbracket : parse "BEGIN BEGIN x := 2 * (y END END." =
      .error (.unexpected "`)`" "identifier `END`" 24) := by
    decide +kernel
  have hoperand : parseExpr "1 - -+ / 2" = .error (.unexpected "expression" "`/`" 7) := by
    decide +kernel
  exact ⟨⟨hbracket, (expected_is_accepted _ _ _ _).1 hbracket⟩, hoperand,
    (expected_is_accepted _ _ _ _).2 hoperand⟩

end BlockLang
