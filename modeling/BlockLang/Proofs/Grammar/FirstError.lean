import BlockLang.Grammar.Parse
import BlockLang.Proofs.Grammar.Completion

set_option relaxedAutoImplicit false
set_option autoImplicit false

/-!
# The first error

An error of parsing lies at the first place where a text becomes hopeless: what stands before the
place can still become a program or an expression, and as soon as what stands at the place is known
to its end, nothing after it changes the error.

## Main definitions

* `BlockLang.Reading.stop` — where what a reading finds ends.
* `BlockLang.ParseError.BlamedOn` — what an error says of the reading it lies at.
* `BlockLang.Pinpoints` — an error that lies at the first hopeless place of a text.

## Main results

* `BlockLang.Automaton.Stops.of_take` — an automaton stops in view of one character after the place.
* `BlockLang.Automaton.IsPrompt.pinpoints` — the errors of such an automaton.
* `BlockLang.errors_pinpoint` — the errors of parsing.
-/

namespace BlockLang

/-- Where what a reading finds ends, if it is found at the given place. -/
def Reading.stop (pos : Nat) : Reading → Nat
  | .token tok => pos + tok.text.length
  | .eof => pos
  | .invalid _ => pos + 1

/-- What an error says of the reading that it lies at: an invalid character is the one that stands
there, an integer that is too large is all of the digits there, and anything else that is found is
the token there or the end of the text. -/
def ParseError.BlamedOn (cs : List Char) (r : Reading) : ParseError → Prop
  | invalidCharacter ch pos => r = .invalid ch ∧ cs[pos]? = some ch
  | integerTooLarge digits pos =>
    r = .token (.ofChars .integer digits.toList) ∧
      digits.toList = (cs.drop pos).takeWhile Char.isDigit ∧
      Int64.maxValue.toInt < Decimal.value digits.toList
  | unexpected _ found pos =>
    (r = .eof ∧ pos = cs.length ∧ found = Token.eof.display) ∨
      ∃ tok, r = .token tok ∧ tok.text.toList <+: cs.drop pos ∧ found = tok.display

/-- An error of a parser lies at the first place where the text becomes hopeless. -/
structure Pinpoints (parser : String → Except ParseError Tree) (text : String) (err : ParseError)
    (r : Reading) : Prop where
  position_le : err.position ≤ text.toList.length
  /-- At the place of the error something is read from the text, -/
  reading : ∃ n, (r, err.position) ∈ (Cursor.ofText text).readings n
  /-- and that is what the error says. -/
  blamed : err.BlamedOn text.toList r
  /-- Before the place there is no invalid character and no integer that is too large. -/
  first : ∀ n, ∀ x ∈ (Cursor.ofText text).readings n, x.2 < err.position →
    ∃ tok, x.1 = .token tok ∧
      (tok.kind = .integer → Decimal.literal? tok.text.toList ≠ none)
  /-- The part of the text before the place can be completed. -/
  completable : ∃ (rest : String) (t : Tree),
    parser (String.ofList (text.toList.take err.position) ++ " " ++ rest) = .ok t
  /-- A text that goes on up to one character after what is read there has the same error. -/
  hopeless : ∀ text' : String,
    text'.toList.take (r.stop err.position + 1) = text.toList.take (r.stop err.position + 1) →
      parser text' = .error err

/-! ## One character after the place -/

/-- A text that agrees with another one up to one character after a part of it has this part too,
and goes on with the same character. -/
lemma exists_append_of_take (before rest : List Char) {cs : List Char}
    (h : cs.take (before.length + 1) = (before ++ rest).take (before.length + 1)) :
    ∃ rest', cs = before ++ rest' ∧ rest.head? = rest'.head? := by
  refine ⟨cs.drop before.length, ?_, ?_⟩
  · have hbefore := congrArg (List.take before.length) h
    simp only [List.take_take, Nat.le_succ, Nat.min_eq_left, List.take_left] at hbefore
    conv_lhs => rw [← List.take_append_drop before.length cs, hbefore]
  · have hnext := congrArg (fun l => l[before.length]?) h
    simp only [List.getElem?_take, Nat.lt_succ_self, if_true] at hnext
    rw [List.head?_drop, hnext, List.getElem?_append_right (Nat.le_refl _), Nat.sub_self,
      List.head?_eq_getElem?]

@[simp] lemma position_error (refusal : Refusal) (tok : Token) (pos : Nat) :
    (refusal.error tok pos).position = pos := by
  cases refusal <;> rfl

namespace Automaton

variable {State : Type} {m : Automaton State}

/-- A run stops in view of one character after the place of the error. -/
theorem Stops.of_take {cs cs' : List Char} {r : Reading} {err : ParseError} (h : m.Stops cs r err)
    (htake : cs'.take (r.stop err.position + 1) = cs.take (r.stop err.position + 1)) :
    m.Stops cs' r err := by
  cases h with
  | eof hread hs hrefuses =>
    simp only [Reading.stop, position_error] at htake
    -- The one character after the text is missing, so it is missing in the other text too.
    obtain ⟨rest, rfl, hhead⟩ : ∃ rest, cs' = cs ++ rest ∧ [].head? = rest.head? :=
      exists_append_of_take cs [] (by simpa using htake)
    obtain rfl : rest = [] := List.head?_eq_none_iff.1 hhead.symm
    rw [List.append_nil]
    exact .eof hread hs hrefuses
  | @invalid read rest toks s ch hread hs hblank hno =>
    simp only [Reading.stop, ParseError.position] at htake
    obtain ⟨rest', rfl, hhead⟩ :=
      exists_append_of_take (read ++ [ch]) rest (by simpa using htake)
    have hsame : (ch :: rest).head? = (ch :: rest').head? := rfl
    simpa using Stops.invalid (hread.of_head? hsame) hs hblank (hno.of_head? hhead)
  | @word read chars rest toks s kind refusal hread hs hspells hends hrefuses =>
    simp only [Reading.stop, position_error] at htake
    obtain ⟨rest', rfl, hhead⟩ :=
      exists_append_of_take (read ++ chars) rest (by simpa using htake)
    have hsame : (chars ++ rest).head? = (chars ++ rest').head? := by
      obtain ⟨c, cs, rfl, -⟩ := hspells.eq_cons
      rfl
    rw [List.append_assoc]
    exact .word (hread.of_head? hsame) hs hspells (Token.Kind.endsBefore_of_head? hhead hends)
      hrefuses

/-- What an automaton must be like for its errors to be the first ones: it has no dead ends, it
takes no integer that is too large, and it blames a refusal on the size of an integer only there. -/
structure IsPrompt (m : Automaton State) : Prop where
  completable : ∀ s, m.Completable s
  step_integer : ∀ (s : State) (tok : Token) (s' : State), m.step s tok.terminal = .ok s' →
    tok.kind = .integer → Decimal.literal? tok.text.toList ≠ none
  step_tooLarge : ∀ s x digits, m.step s x = .error (.tooLarge digits) →
    x = .integer digits ∧ Decimal.literal? digits.toList = none
  finish_tooLarge : ∀ s digits, m.finish s ≠ .error (.tooLarge digits)

variable {cs : List Char} {r : Reading} {err : ParseError}

lemma Stops.exists_split (h : m.Stops cs r err) :
    ∃ read rest toks s, cs = read ++ rest ∧ err.position = read.length ∧ Wording rest read toks ∧
      m.Reaches m.start toks s := by
  cases h with
  | eof hread hs hrefuses =>
    exact ⟨_, [], _, _, by simp, position_error _ _ _, hread, hs⟩
  | invalid hread hs hblank hno => exact ⟨_, _, _, _, rfl, rfl, hread, hs⟩
  | word hread hs hspells hends hrefuses =>
    exact ⟨_, _, _, _, rfl, position_error _ _ _, hread, hs⟩

/-- The error lies at a reading of the text. -/
lemma Stops.reading (h : m.Stops cs r err) :
    ∃ n, (r, err.position) ∈ Cursor.readings ⟨cs, 0, 0⟩ n := by
  cases h with
  | @eof read toks s refusal hread hs hrefuses =>
    refine ⟨toks.length + 1, ?_⟩
    have hmem := Cursor.mem_readings hread
      (fun bs pos start hbs => ⟨_, Cursor.next_eof pos start (by simpa using hbs), by simp⟩) 0 0
    simpa using hmem
  | @invalid read rest toks s ch hread hs hblank hno =>
    refine ⟨toks.length + 1, ?_⟩
    have hmem := Cursor.mem_readings hread
      (fun bs pos start hbs => ⟨_, Cursor.next_invalid pos start hbs hblank hno, rfl⟩) 0 0
    simpa [ParseError.position] using hmem
  | @word read chars rest toks s kind refusal hread hs hspells hends hrefuses =>
    refine ⟨toks.length + 1, ?_⟩
    have hmem := Cursor.mem_readings hread
      (fun bs pos start hbs => ⟨_, Cursor.next_word pos start hbs hspells hends, rfl⟩) 0 0
    simpa using hmem

lemma Stops.blamedOn (hm : m.IsPrompt) (h : m.Stops cs r err) : err.BlamedOn cs r := by
  cases h with
  | @eof read toks s refusal hread hs hrefuses =>
    cases refusal with
    | tooLarge digits => exact absurd hrefuses (hm.finish_tooLarge s digits)
    | expected what => exact Or.inl ⟨rfl, rfl, rfl⟩
  | invalid hread hs hblank hno => exact ⟨rfl, by simp⟩
  | @word read chars rest toks s kind refusal hread hs hspells hends hrefuses =>
    cases refusal with
    | tooLarge digits =>
      obtain ⟨hterminal, hlarge⟩ := hm.step_tooLarge _ _ _ hrefuses
      obtain ⟨hkind, htext⟩ := Token.terminal_eq_integer_iff.1 hterminal
      obtain rfl : kind = .integer := hkind
      obtain rfl : chars = digits.toList := by simp [← htext]
      refine ⟨rfl, ?_, Decimal.literal?_eq_none_iff.1 hlarge⟩
      rw [List.drop_left, (Lexeme.takeWhile_append_of_head? hspells.2 hends).1]
    | expected what => exact Or.inr ⟨_, rfl, by simp, rfl⟩

/-- The errors of such an automaton lie at the first place where the text becomes hopeless. -/
theorem IsPrompt.pinpoints (hm : m.IsPrompt) {text : String}
    (h : m.run (.ofText text) = .error err) :
    ∃ r, Pinpoints (fun text => m.run (.ofText text)) text err r := by
  obtain ⟨r, hstops⟩ := run_eq_error_iff.1 h
  obtain ⟨read, rest, toks, s, hsplit, hposition, hread, hs⟩ := hstops.exists_split
  have hhopeless (text' : String)
      (htake : text'.toList.take (r.stop err.position + 1) =
        text.toList.take (r.stop err.position + 1)) : m.run (.ofText text') = .error err :=
    run_eq_error_iff.2 ⟨r, hstops.of_take htake⟩
  refine ⟨r, ?_, hstops.reading, hstops.blamedOn hm, fun n x hx hlt => ?_, ?_, hhopeless⟩
  · simp [hposition, hsplit]
  · rw [hposition, ← Nat.zero_add read.length] at hlt
    rw [Cursor.ofText, hsplit] at hx
    obtain ⟨tok, htok, hx⟩ := Cursor.mem_of_mem_readings hread hx hlt
    exact ⟨tok, hx, hs.forall_taken hm.step_integer tok htok⟩
  · rw [hposition, hsplit, List.take_left]
    exact (hm.completable s).exists_run_eq_ok hread hs

end Automaton

/-! ## Expressions and programs -/

namespace Expression

/-- No integer that is too large is taken. -/
lemma Takes.literal?_ne_none {s s' : State} {t : Token} (h : Takes s t s')
    (hkind : t.kind = .integer) : Decimal.literal? t.text.toList ≠ none := by
  cases h with
  | integer ht hv => simp [Decimal.literal?_eq_some_iff.2 hv]
  | name ht => simp [ht] at hkind
  | openBracket ht | sign ht | product _ ht | sum _ ht | closeBracket ht =>
    simp [(Token.is_eq_true_iff.1 ht).1] at hkind

lemma eq_integer_of_step {s : State} {x : Terminal} {digits : String}
    (h : s.step x = .error (.tooLarge digits)) :
    x = .integer digits ∧ Decimal.literal? digits.toList = none := by
  cases s with
  | operand chain outer =>
    cases x with
    | integer ds =>
      rcases hliteral : Decimal.literal? ds.toList with _ | v
      · simp only [State.step, State.stepOperand, hliteral, Except.error.injEq,
          Refusal.tooLarge.injEq] at h
        exact ⟨congrArg Terminal.integer h, h ▸ hliteral⟩
      · simp [State.step, State.stepOperand, hliteral] at h
    | operator op =>
      rcases hsign : op.sign? with _ | sign <;>
        simp [State.step, State.stepOperand, hsign] at h
    | _ => simp [State.step, State.stepOperand] at h
  | operator term sum outer =>
    cases x with
    | operator op => cases op <;> simp [State.step, State.stepOperator] at h
    | closeBracket => cases outer <;> simp [State.step, State.stepOperator] at h
    | _ => cases outer <;> simp [State.step, State.stepOperator] at h

lemma finish_ne_tooLarge (s : State) (digits : String) :
    s.finish ≠ .error (.tooLarge digits) := by
  cases s with
  | operand chain outer => simp [State.finish]
  | operator term sum outer => cases outer <;> simp [State.finish]

lemma isPrompt : automaton.IsPrompt where
  completable := completable
  step_integer _ _ _ h := (step_eq_ok_iff.1 h).literal?_ne_none
  step_tooLarge _ _ _ := eq_integer_of_step
  finish_tooLarge := finish_ne_tooLarge

end Expression

namespace Program

lemma Takes.literal?_ne_none {s s' : State} {t : Token} (h : Takes s t s')
    (hkind : t.kind = .integer) : Decimal.literal? t.text.toList ≠ none := by
  cases h with
  | value h => exact h.literal?_ne_none hkind
  | target ht => simp [ht] at hkind
  | start ht | push ht | close _ ht | last _ ht => simp [Token.kind_of_isKeyword ht] at hkind
  | assign ht | semicolon _ ht | period ht => simp [(Token.is_eq_true_iff.1 ht).1] at hkind

lemma afterStatement_ne_tooLarge (blocks : Blocks) (tree : Tree) (x : Terminal) (digits : String) :
    State.afterStatement blocks tree x ≠ .error (.tooLarge digits) := by
  cases x with
  | blockEnd => rcases blocks with ⟨current, _ | ⟨inner, outer⟩⟩ <;> simp [State.afterStatement]
  | _ => simp [State.afterStatement]

lemma eq_integer_of_step {s : State} {x : Terminal} {digits : String}
    (h : s.step x = .error (.tooLarge digits)) :
    x = .integer digits ∧ Decimal.literal? digits.toList = none := by
  cases s with
  | value name expression blocks =>
    rcases hstep : expression.step x with refusal | expression'
    · rcases hfinish : expression.finish with refusal' | e
      · simp only [State.step, hstep, hfinish, Except.error.injEq] at h
        exact Expression.eq_integer_of_step (h ▸ hstep)
      · simp only [State.step, hstep, hfinish] at h
        exact absurd h (afterStatement_ne_tooLarge _ _ _ _)
    · simp [State.step, hstep] at h
  | statement blocks =>
    cases x with
    | blockBegin | name => simp [State.step] at h
    | _ =>
      simp only [State.step] at h
      exact absurd h (afterStatement_ne_tooLarge _ _ _ _)
  | closed b blocks => exact absurd h (afterStatement_ne_tooLarge _ _ _ _)
  | start | target | period | finished => cases x <;> simp [State.step] at h

lemma finish_ne_tooLarge (s : State) (digits : String) :
    s.finish ≠ .error (.tooLarge digits) := by
  cases s with
  | value name expression blocks =>
    have hne := Expression.finish_ne_tooLarge expression digits
    rcases hfinish : expression.finish with refusal | e
    · rw [hfinish] at hne
      simpa only [State.finish, hfinish] using hne
    · simp [State.finish, hfinish]
  | _ => simp [State.finish]

lemma isPrompt : automaton.IsPrompt where
  completable := completable
  step_integer _ _ _ h := (step_eq_ok_iff.1 h).literal?_ne_none
  step_tooLarge _ _ _ := eq_integer_of_step
  finish_tooLarge := finish_ne_tooLarge

end Program

/-- **The first error.** Every error of parsing lies at the first place where the text becomes
hopeless, for programs and for expressions: it is not reported before this place, and not after. -/
theorem errors_pinpoint (text : String) (err : ParseError) :
    (parse text = .error err → ∃ r, Pinpoints parse text err r) ∧
    (parseExpr text = .error err → ∃ r, Pinpoints parseExpr text err r) :=
  ⟨Program.isPrompt.pinpoints, Expression.isPrompt.pinpoints⟩

/-- A second operand in a program is pinpointed, and so is an integer that is too large in an
expression. -/
theorem errors_pinpoint_second_operand :
    (∃ r, Pinpoints parse "BEGIN a := 1 2 END." (.unexpected "`END`" "integer `2`" 13) r) ∧
    ∃ r, Pinpoints parseExpr "(1 + 9223372036854775808"
      (.integerTooLarge "9223372036854775808" 5) r :=
  ⟨(errors_pinpoint _ _).1 (by decide +kernel), (errors_pinpoint _ _).2 (by decide +kernel)⟩

end BlockLang
