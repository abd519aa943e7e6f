import BlockLang.Proofs.Grammar.Descent
import BlockLang.Proofs.Token.Place

set_option relaxedAutoImplicit false
set_option autoImplicit false

/-!
# Descents come to what parsing comes to

While a descent goes through a text, an automaton that has taken the same tokens is in a state that
says where the descent stands. Each procedure takes it from the state where its part of the grammar
is to come to the state where this part has come, and refuses a token where the automaton does.

## Main definitions

* `BlockLang.Descent.Hosts` — an automaton reads an expression as a part of what it reads.
* `BlockLang.Descent.Site` — the two places where a block may stand.
* `BlockLang.Descent.Contract` — the states before and after a procedure.

## Main results

* `BlockLang.Descent.fulfils_body` — what each procedure does fulfils its contract, if the
  procedures that it calls do.
* `BlockLang.Descent.fulfils_run` — calls fulfil the contracts, down to any depth.
* `BlockLang.Descent.wp_descend_program`, `BlockLang.Descent.wp_descend_expression` — descents come
  to the tree or the error of parsing, unless they go too deep.
-/

namespace BlockLang.Descent

/-! ## Tokens taken and refused -/

/-- What there is to read from the lookahead on. -/
def Lookahead.stream (l : Lookahead) : TokenStream :=
  if l.token.kind = .eof then .eof l.place else .token l.token l.place l.cursor.stream

lemma terminal_of_eof {t : Token} (h : t.kind = .eof) : t.terminal = .other := by
  simp [Token.terminal, h]

lemma kind_ne_eof_of_terminal {t : Token} (h : t.terminal ≠ .other) : t.kind ≠ .eof :=
  fun heof => h (terminal_of_eof heof)

lemma ne_other_of_meets {what : Expectation} {x : Terminal} (h : meets what x = true) :
    x ≠ .other := by
  rintro rfl
  cases what <;> cases h

/-- An abort is the error that is to come, or the calls went too deep. -/
def Fails (R : Except ParseError Tree) : Abort → State → Prop
  | .error err, _ => R = .error err
  | .tooDeep, _ => True

section

variable {σ : Type} {m : Automaton σ} {u u' : σ} {R : Except ParseError Tree} {s : State}

/-- The next token is read, or there is the error of a character that begins no word. -/
lemma wp_advance_of_stream (h : m.runFrom u s.here.cursor.stream = R) :
    wp advance (fun _ s' => m.runFrom u s'.here.stream = R) (Fails R) s := by
  refine wp_advance (fun tok c hnext => ?_) (fun c hnext => ?_) fun ch c hnext => ?_
  · rw [Cursor.stream_of_token hnext] at h
    rwa [Lookahead.stream, if_neg (Cursor.kind_ne_eof_of_next hnext)]
  · rw [Cursor.stream_of_eof hnext] at h
    exact h
  · rw [Cursor.stream_of_invalid hnext] at h
    exact h.symm

/-- What is still to come does not tell apart states that do the same to the token read ahead. -/
lemma runFrom_congr {l : Lookahead} (hstep : m.step u' l.token.terminal = m.step u l.token.terminal)
    (hfinish : m.finish u' = m.finish u) : m.runFrom u' l.stream = m.runFrom u l.stream := by
  rw [Lookahead.stream]
  split
  case isTrue => rw [Automaton.runFrom, Automaton.runFrom, hfinish]
  case isFalse => rw [Automaton.runFrom, Automaton.runFrom, hstep]

/-- A token that the automaton takes is taken. -/
lemma wp_advance_of_step (h : m.runFrom u s.here.stream = R)
    (hother : s.here.token.terminal ≠ .other) (hstep : m.step u s.here.token.terminal = .ok u') :
    wp advance (fun _ s' => m.runFrom u' s'.here.stream = R) (Fails R) s := by
  rw [Lookahead.stream, if_neg (kind_ne_eof_of_terminal hother), Automaton.runFrom, hstep] at h
  exact wp_advance_of_stream h

/-- A token that the automaton refuses is refused, and so is the end. -/
lemma fails_of_step {refusal : Refusal} (h : m.runFrom u s.here.stream = R)
    (hstep : m.step u s.here.token.terminal = .error refusal)
    (hfinish : s.here.token.kind = .eof → m.finish u = .error refusal) :
    Fails R (.error (refusal.error s.here.token s.here.place)) s := by
  rw [Lookahead.stream] at h
  split at h
  case isTrue heof =>
    rw [Automaton.runFrom, hfinish heof] at h
    rw [Fails, ← h]
    cases refusal with
    | tooLarge digits => rfl
    | expected what =>
      rw [Except.mapError, Refusal.error, Refusal.error, Token.display, Token.display, heof]
      rfl
  case isFalse =>
    rw [Automaton.runFrom, hstep] at h
    exact h.symm

/-- A keyword or symbol that the automaton wants is taken, and anything else is refused. -/
lemma wp_eat {what : Expectation} (h : m.runFrom u s.here.stream = R)
    (htakes : meets what s.here.token.terminal = true →
      m.step u s.here.token.terminal = .ok u')
    (hrefuses : meets what s.here.token.terminal = false →
      m.step u s.here.token.terminal = .error (.expected what))
    (hfinish : s.here.token.kind = .eof → m.finish u = .error (.expected what)) :
    wp (eat what) (fun _ s' => m.runFrom u' s'.here.stream = R) (Fails R) s := by
  simp only [eat, wp_bind, wp_lookahead]
  split
  case isTrue hmeets => exact wp_advance_of_step h (ne_other_of_meets hmeets) (htakes hmeets)
  case isFalse hmeets =>
    exact fails_of_step h (hrefuses (by simpa using hmeets)) hfinish

/-- A name that the automaton takes is taken; no name comes only if the token is refused. -/
lemma wp_eatName {u' : String → σ} (h : m.runFrom u s.here.stream = R)
    (htakes : ∀ name,
      s.here.token.terminal = .name name ∨ s.here.token.terminal = .blockBegin name →
        m.step u s.here.token.terminal = .ok (u' name))
    (hrefuses : (∀ name, s.here.token.terminal ≠ .name name) →
      (∀ name, s.here.token.terminal ≠ .blockBegin name) →
        Fails R (.error (Refusal.error s.here.token s.here.place (.expected .variableName))) s) :
    wp eatName (fun name s' => m.runFrom (u' name) s'.here.stream = R) (Fails R) s := by
  have htake {name : String} (hx : s.here.token.terminal = .name name ∨
      s.here.token.terminal = .blockBegin name) :
      wp advance (fun _ s' => m.runFrom (u' name) s'.here.stream = R) (Fails R) s := by
    refine wp_advance_of_step h ?_ (htakes name hx)
    rcases hx with hx | hx <;> simp [hx]
  rw [eatName, wp_bind, wp_lookahead]
  split
  case h_1 name hname => exact wp_bind_of (htake (Or.inl hname)) fun _ _ h' => h'
  case h_2 name hname => exact wp_bind_of (htake (Or.inr hname)) fun _ _ h' => h'
  case h_3 hname hbegin => exact hrefuses hname hbegin

/-- After what is read nothing but the end is accepted. -/
lemma wp_endOfInput {t : Tree} (h : m.runFrom u s.here.stream = R) (hfinish : m.finish u = .ok t)
    (hstep : m.step u s.here.token.terminal = .error (.expected .endOfInput)) :
    wp (endOfInput t) (fun t _ => R = .ok t) (Fails R) s := by
  simp only [endOfInput, wp_bind, wp_lookahead]
  split
  case isTrue heof =>
    rw [Lookahead.stream, if_pos heof, Automaton.runFrom, hfinish] at h
    exact h.symm
  case isFalse heof => exact fails_of_step h hstep fun heof' => absurd heof' heof

end

/-! ## Contracts -/

/-- The automaton reads an expression as a part of what it reads: in the states that `f` gives it
does as the automaton of expressions, as long as the expression cannot end. -/
structure Hosts {σ : Type} (m : Automaton σ) (f : Expression.State → σ) : Prop where
  step_ok : ∀ {u u' x}, u.step x = .ok u' → m.step (f u) x = .ok (f u')
  step_error : ∀ {u x refusal refusal'}, u.step x = .error refusal → u.finish = .error refusal' →
    m.step (f u) x = .error refusal
  finish_error : ∀ {u refusal}, u.finish = .error refusal → m.finish (f u) = .error refusal

lemma hosts_expression : Hosts Expression.automaton id where
  step_ok h := h
  step_error h _ := h
  finish_error h := h

lemma hosts_value (name : String) (blocks : Program.Blocks) :
    Hosts Program.automaton fun u => .value name u blocks where
  step_ok h := by simp only [Program.automaton, Program.State.step, h]
  step_error h h' := by simp only [Program.automaton, Program.State.step, h, h']
  finish_error h := by simp only [Program.automaton, Program.State.finish, h]

/-- Where a block stands. -/
inductive Site where
  | outermost
  | within (blocks : Program.Blocks)

namespace Site

/-- The state before the block. -/
def before : Site → Program.State
  | outermost => .start
  | within blocks => .statement blocks

/-- The blocks that are open within the block. -/
def opened : Site → Program.Blocks
  | outermost => .empty
  | within blocks => blocks.push

/-- The state after the block. -/
def after : Site → Tree → Program.State
  | outermost, b => .period b
  | within blocks, b => .closed b blocks

end Site

/-- Statements have been read, but for the keyword that ends them. -/
def AfterStatements (R : Except ParseError Tree) (outer : List (List Tree)) (b : Tree)
    (l : Lookahead) : Prop :=
  ∃ last current, b = .compound (last :: current).reverse ∧
    Program.automaton.runFrom (.closed last ⟨current, outer⟩) l.stream = R ∧
    l.token.terminal ≠ .semicolon

/-- A term has been read, and no operation goes on with it. -/
def AfterTerm {σ : Type} (R : Except ParseError Tree) (m : Automaton σ) (f : Expression.State → σ)
    (sum : Option Expression.Pending) (outer : List Expression.Chain) (e : Tree)
    (l : Lookahead) : Prop :=
  m.runFrom (f (.operator e sum outer)) l.stream = R ∧
    ∀ op ∈ [BinaryOp.multiply, .divide], l.token.terminal ≠ .operator op

/-- An expression has been read, and no operation goes on with it. -/
def AfterExpression {σ : Type} (R : Except ParseError Tree) (m : Automaton σ)
    (f : Expression.State → σ) (outer : List Expression.Chain) (e : Tree) (l : Lookahead) : Prop :=
  ∃ term sum, Expression.complete sum term = e ∧
    m.runFrom (f (.operator term sum outer)) l.stream = R ∧ ∀ op, l.token.terminal ≠ .operator op

/-- `Contract R p l post`: if the procedure `p` is called with the lookahead `l`, then `post` holds
of its tree and of the lookahead after it. Each contract names the state of an automaton before the
procedure and the state after it; from both of them the automaton comes to the result `R`. -/
inductive Contract (R : Except ParseError Tree) :
    Procedure → Lookahead → (Tree → Lookahead → Prop) → Prop where
  | program {l : Lookahead} (h : Program.automaton.runFrom .start l.stream = R) :
      Contract R .program l fun t l' => Program.automaton.runFrom (.finished t) l'.stream = R
  | block {l : Lookahead} (site : Site) (h : Program.automaton.runFrom site.before l.stream = R)
      (hsite : site = .outermost ∨ meets .blockBegin l.token.terminal = true) :
      Contract R .block l fun b l' => Program.automaton.runFrom (site.after b) l'.stream = R
  | statements {l : Lookahead} {outer : List (List Tree)}
      (h : Program.automaton.runFrom (.statement ⟨[], outer⟩) l.stream = R) :
      Contract R .statements l (AfterStatements R outer)
  | moreStatements {l : Lookahead} {last : Tree} {current : List Tree} {outer : List (List Tree)}
      (h : Program.automaton.runFrom (.closed last ⟨current, outer⟩) l.stream = R) :
      Contract R (.moreStatements (last :: current)) l (AfterStatements R outer)
  | statement {l : Lookahead} {blocks : Program.Blocks}
      (h : Program.automaton.runFrom (.statement blocks) l.stream = R) :
      Contract R .statement l fun t l' =>
        Program.automaton.runFrom (.closed t blocks) l'.stream = R
  | assignment {l : Lookahead} {blocks : Program.Blocks} {name : String}
      (h : Program.automaton.runFrom (.statement blocks) l.stream = R)
      (hname : l.token.terminal = .name name) :
      Contract R .assignment l fun t l' =>
        Program.automaton.runFrom (.closed t blocks) l'.stream = R
  | expression {σ : Type} {m : Automaton σ} {f : Expression.State → σ} (hosts : Hosts m f)
      {l : Lookahead} {outer : List Expression.Chain}
      (h : m.runFrom (f (.operand .empty outer)) l.stream = R) :
      Contract R .expression l (AfterExpression R m f outer)
  | moreTerms {σ : Type} {m : Automaton σ} {f : Expression.State → σ} (hosts : Hosts m f)
      {l : Lookahead} {term : Tree} {sum : Option Expression.Pending}
      {outer : List Expression.Chain} (h : m.runFrom (f (.operator term sum outer)) l.stream = R)
      (hnext : ∀ op ∈ [BinaryOp.multiply, .divide], l.token.terminal ≠ .operator op) :
      Contract R (.moreTerms (Expression.complete sum term)) l (AfterExpression R m f outer)
  | term {σ : Type} {m : Automaton σ} {f : Expression.State → σ} (hosts : Hosts m f)
      {l : Lookahead} {sum : Option Expression.Pending} {outer : List Expression.Chain}
      (h : m.runFrom (f (.operand ⟨sum, none, []⟩ outer)) l.stream = R) :
      Contract R .term l (AfterTerm R m f sum outer)
  | moreFactors {σ : Type} {m : Automaton σ} {f : Expression.State → σ} (hosts : Hosts m f)
      {l : Lookahead} {left : Tree} {sum : Option Expression.Pending}
      {outer : List Expression.Chain} (h : m.runFrom (f (.operator left sum outer)) l.stream = R) :
      Contract R (.moreFactors left) l (AfterTerm R m f sum outer)
  | factor {σ : Type} {m : Automaton σ} {f : Expression.State → σ} (hosts : Hosts m f)
      {l : Lookahead} {chain : Expression.Chain} {outer : List Expression.Chain}
      (h : m.runFrom (f (.operand chain outer)) l.stream = R) :
      Contract R .factor l fun e l' =>
        m.runFrom (f (.operator (chain.term e) chain.sum outer)) l'.stream = R

/-- Procedures fulfil the contracts. -/
def Fulfils (R : Except ParseError Tree) (call : Procedure → DescentM Tree) : Prop :=
  ∀ {p s post}, Contract R p s.here post → wp (call p) (fun t s' => post t s'.here) (Fails R) s

/-- Every wish but the one for `BEGIN` is met by one terminal only. -/
lemma meets_iff {what : Expectation} {x y : Terminal} (hy : meets what y = true)
    (hwhat : what ≠ .blockBegin) : meets what x = true ↔ x = y := by
  cases what <;> cases x <;> cases y <;> simp_all [meets]

section

variable {R : Except ParseError Tree} {call : Procedure → DescentM Tree} {s : State}

/-! ## Expressions -/

section

variable {σ : Type} {m : Automaton σ} {f : Expression.State → σ}
  {outer : List Expression.Chain} {sum : Option Expression.Pending} {term left : Tree}

/-- Within brackets an expression ends with a bracket only. -/
lemma stepOperator_eq_error {chain : Expression.Chain} {x : Terminal}
    (hnext : ∀ op, x ≠ .operator op) (hx : meets .closeBracket x = false) :
    Expression.State.stepOperator term sum (chain :: outer) x =
      .error (.expected .closeBracket) := by
  cases x <;> simp_all [Expression.State.stepOperator, meets]

/-- Outside of brackets an expression goes on with an operation only. -/
lemma step_operator_eq_error {x : Terminal} (hnext : ∀ op, x ≠ .operator op) :
    (Expression.State.operator term sum []).step x = .error (.expected .endOfInput) := by
  cases x <;> simp_all [Expression.State.step, Expression.State.stepOperator]

lemma fulfils_factor (hcall : Fulfils R call) (hosts : Hosts m f) {chain : Expression.Chain}
    (h : m.runFrom (f (.operand chain outer)) s.here.stream = R) :
    wp (body call .factor)
      (fun e s' => m.runFrom (f (.operator (chain.term e) chain.sum outer)) s'.here.stream = R)
      (Fails R) s := by
  have hfinish : m.finish (f (.operand chain outer)) = .error (.expected .expression) :=
    hosts.finish_error rfl
  have htake {x : Terminal} {u : Expression.State} (hx : s.here.token.terminal = x)
      (hother : x ≠ .other) (hstep : Expression.State.stepOperand chain outer x = .ok u) :
      wp advance (fun _ s' => m.runFrom (f u) s'.here.stream = R) (Fails R) s :=
    wp_advance_of_step h (hx ▸ hother) (hosts.step_ok (hx ▸ hstep))
  have hrefuse {x : Terminal} {refusal : Refusal} (hx : s.here.token.terminal = x)
      (hstep : Expression.State.stepOperand chain outer x = .error refusal)
      (hother : x = .other → refusal = .expected .expression) :
      Fails R (.error (refusal.error s.here.token s.here.place)) s := by
    refine fails_of_step h (hosts.step_error (hx ▸ hstep) rfl) fun heof => ?_
    rw [hfinish, hother (hx.symm.trans (terminal_of_eof heof))]
  have hname (name : String) (hx : s.here.token.terminal = .name name ∨
      s.here.token.terminal = .blockBegin name) :
      m.step (f (.operand chain outer)) s.here.token.terminal =
        .ok (f (.operator (chain.term (.var name)) chain.sum outer)) := by
    rcases hx with hx | hx <;>
    · rw [hx]
      exact hosts.step_ok rfl
  rw [body, wp_bind, wp_lookahead]
  cases hx : s.here.token.terminal with
  | integer digits =>
    rcases hliteral : Decimal.literal? digits.toList with _ | v
    · simp only [hliteral]
      exact hrefuse hx (by simp [Expression.State.stepOperand, hliteral]) (by simp)
    · simp only [hliteral]
      refine wp_bind_of (htake hx (by simp) ?_) fun _ _ hafter => hafter
      simp [Expression.State.stepOperand, hliteral]
  | operator op =>
    rcases hsign : op.sign? with _ | sign
    · simp only [hsign]
      exact hrefuse hx (by simp [Expression.State.stepOperand, hsign]) (by simp)
    · simp only [hsign]
      have hstep : Expression.State.stepOperand chain outer (.operator op) =
          .ok (.operand ⟨chain.sum, chain.product, sign :: chain.signs⟩ outer) := by
        simp [Expression.State.stepOperand, hsign]
      refine wp_bind_of (htake hx (by simp) hstep) fun _ s' h' => ?_
      exact wp_bind_of (hcall (.factor hosts h')) fun _ _ hafter => hafter
  | openBracket =>
    refine wp_bind_of (htake hx (by simp) rfl) fun _ s' h' => ?_
    refine wp_bind_of (hcall (.expression hosts h')) fun e s'' hinner => ?_
    obtain ⟨term, sum, rfl, h'', hnext⟩ := hinner
    have hclose : m.finish (f (.operator term sum (chain :: outer))) =
        .error (.expected .closeBracket) := hosts.finish_error rfl
    refine wp_bind_of (wp_eat h'' (fun hmeets => ?_) (fun hmeets => ?_) fun _ => hclose)
      fun _ _ hafter => hafter
    · rw [(meets_iff (y := .closeBracket) rfl (by simp)).1 hmeets]
      exact hosts.step_ok rfl
    · exact hosts.step_error (stepOperator_eq_error hnext hmeets) rfl
  | name name =>
    exact wp_bind_of (wp_eatName h hname fun hno _ => absurd hx (hno name)) fun _ _ hafter => hafter
  | blockBegin name =>
    exact wp_bind_of (wp_eatName h hname fun _ hno => absurd hx (hno name)) fun _ _ hafter => hafter
  | blockEnd =>
    exact wp_bind_of (wp_eatName h hname fun _ _ => hrefuse hx rfl (by simp))
      fun _ _ hafter => hafter
  | assign | semicolon | period | closeBracket | other => exact hrefuse hx rfl fun _ => rfl

/-- An operation between factors goes on with its right operand. -/
lemma Hosts.step_product (hosts : Hosts m f) {op : BinaryOp} {x : Terminal}
    (hop : op ∈ [BinaryOp.multiply, .divide]) (hx : x = .operator op) :
    m.step (f (.operator left sum outer)) x =
      .ok (f (.operand ⟨sum, some ⟨left, op⟩, []⟩ outer)) := by
  refine hosts.step_ok ?_
  subst hx
  cases op <;> simp_all [Expression.State.step, Expression.State.stepOperator]

/-- An operation between terms completes the sum so far. -/
lemma Hosts.step_sum (hosts : Hosts m f) {op : BinaryOp} {x : Terminal}
    (hop : op ∈ [BinaryOp.plus, .minus]) (hx : x = .operator op) :
    m.step (f (.operator term sum outer)) x =
      .ok (f (.operand ⟨some ⟨Expression.complete sum term, op⟩, none, []⟩ outer)) := by
  refine hosts.step_ok ?_
  subst hx
  cases op <;> simp_all [Expression.State.step, Expression.State.stepOperator]

lemma fulfils_moreFactors (hcall : Fulfils R call) (hosts : Hosts m f)
    (h : m.runFrom (f (.operator left sum outer)) s.here.stream = R) :
    wp (body call (.moreFactors left)) (fun e s' => AfterTerm R m f sum outer e s'.here)
      (Fails R) s := by
  refine wp_moreOperands (fun hstop => ⟨h, hstop⟩) fun op hmem hop => ?_
  refine wp_bind_of (wp_advance_of_step h (by simp [hop]) (hosts.step_product hmem hop))
    fun _ s' h' => ?_
  refine wp_bind_of (hcall (.factor hosts h')) fun right s'' h'' => ?_
  exact hcall (.moreFactors hosts h'')

lemma fulfils_term (hcall : Fulfils R call) (hosts : Hosts m f)
    (h : m.runFrom (f (.operand ⟨sum, none, []⟩ outer)) s.here.stream = R) :
    wp (body call .term) (fun e s' => AfterTerm R m f sum outer e s'.here) (Fails R) s :=
  wp_bind_of (hcall (.factor hosts h)) fun _ _ h' => hcall (.moreFactors hosts h')

lemma fulfils_moreTerms (hcall : Fulfils R call) (hosts : Hosts m f)
    (h : m.runFrom (f (.operator term sum outer)) s.here.stream = R)
    (hnext : ∀ op ∈ [BinaryOp.multiply, .divide], s.here.token.terminal ≠ .operator op) :
    wp (body call (.moreTerms (Expression.complete sum term)))
      (fun e s' => AfterExpression R m f outer e s'.here) (Fails R) s := by
  refine wp_moreOperands (fun hstop => ⟨term, sum, rfl, h, fun op => ?_⟩) fun op hmem hop => ?_
  · cases op with
    | plus | minus => exact hstop _ (by simp)
    | multiply | divide => exact hnext _ (by simp)
  · refine wp_bind_of (wp_advance_of_step h (by simp [hop]) (hosts.step_sum hmem hop))
      fun _ s' h' => ?_
    refine wp_bind_of (hcall (.term hosts h')) fun right s'' h'' => ?_
    exact hcall (.moreTerms hosts h''.1 h''.2)

lemma fulfils_expression (hcall : Fulfils R call) (hosts : Hosts m f)
    (h : m.runFrom (f (.operand .empty outer)) s.here.stream = R) :
    wp (body call .expression) (fun e s' => AfterExpression R m f outer e s'.here) (Fails R) s :=
  wp_bind_of (hcall (.term hosts h)) fun _ _ h' => hcall (.moreTerms hosts h'.1 h'.2)

end

/-! ## Programs -/

/-- The states in which a certain keyword or symbol has to come. -/
inductive Demands : Program.State → Expectation → Prop where
  | start : Demands .start .blockBegin
  | target (name : String) (blocks : Program.Blocks) : Demands (.target name blocks) .assign
  | period (b : Tree) : Demands (.period b) .period

namespace Demands

variable {u : Program.State} {what : Expectation}

lemma step_eq_error (h : Demands u what) {x : Terminal} (hx : meets what x = false) :
    Program.automaton.step u x = .error (.expected what) := by
  cases h <;> cases x <;> first | rfl | cases hx

lemma finish_eq_error (h : Demands u what) :
    Program.automaton.finish u = .error (.expected what) := by
  cases h <;> rfl

end Demands

lemma fulfils_program (hcall : Fulfils R call)
    (h : Program.automaton.runFrom .start s.here.stream = R) :
    wp (body call .program)
      (fun t s' => Program.automaton.runFrom (.finished t) s'.here.stream = R) (Fails R) s := by
  refine wp_bind_of (hcall (.block .outermost h (Or.inl rfl))) fun b s' h' => ?_
  refine wp_bind_of (wp_eat h' (fun hmeets => ?_) (fun hmeets => ?_) fun _ => rfl)
    fun _ _ hafter => hafter
  · rw [(meets_iff (y := .period) rfl (by simp)).1 hmeets]
    rfl
  · exact (Demands.period b).step_eq_error hmeets

/-- The keyword `END` takes a block to the state after it. -/
lemma Site.afterStatement_blockEnd (site : Site) (last : Tree) (current : List Tree) :
    Program.State.afterStatement ⟨current, site.opened.outer⟩ last .blockEnd =
      .ok (site.after (.compound (last :: current).reverse)) := by
  cases site <;> rfl

lemma exists_blockBegin {x : Terminal} (h : meets .blockBegin x = true) :
    ∃ name, x = .blockBegin name := by
  cases x <;> simp_all [meets]

/-- After a statement a block ends or goes on. -/
lemma afterStatement_eq_error {blocks : Program.Blocks} {t : Tree} {x : Terminal}
    (hnext : x ≠ .semicolon) (hx : meets .blockEnd x = false) :
    Program.State.afterStatement blocks t x = .error (.expected .blockEnd) := by
  cases x <;> simp_all [Program.State.afterStatement, meets]

lemma fulfils_block (hcall : Fulfils R call) (site : Site)
    (h : Program.automaton.runFrom site.before s.here.stream = R)
    (hsite : site = .outermost ∨ meets .blockBegin s.here.token.terminal = true) :
    wp (body call .block)
      (fun b s' => Program.automaton.runFrom (site.after b) s'.here.stream = R) (Fails R) s := by
  have hbegin : wp (eat .blockBegin) (fun _ s' =>
      Program.automaton.runFrom (.statement ⟨[], site.opened.outer⟩) s'.here.stream = R)
      (Fails R) s := by
    cases site with
    | outermost =>
      refine wp_eat h (fun hmeets => ?_) Demands.start.step_eq_error
        fun _ => Demands.start.finish_eq_error
      obtain ⟨name, hx⟩ := exists_blockBegin hmeets
      rw [hx]
      rfl
    | within blocks =>
      have hmeets : meets .blockBegin s.here.token.terminal = true := by simpa using hsite
      obtain ⟨name, hx⟩ := exists_blockBegin hmeets
      refine wp_eat h (fun _ => ?_) (fun hno => ?_) fun heof => ?_
      · rw [hx]
        rfl
      · rw [hmeets] at hno
        cases hno
      · rw [terminal_of_eof heof] at hx
        cases hx
  refine wp_bind_of hbegin fun _ s' h' => ?_
  refine wp_bind_of (hcall (.statements h')) fun b s'' hafter => ?_
  obtain ⟨last, current, rfl, h'', hnext⟩ := hafter
  refine wp_bind_of (wp_eat h'' (fun hmeets => ?_) (fun hmeets => ?_) fun _ => rfl)
    fun _ _ hafter => hafter
  · rw [(meets_iff (y := .blockEnd) rfl (by simp)).1 hmeets]
    exact site.afterStatement_blockEnd last current
  · exact afterStatement_eq_error hnext hmeets

lemma fulfils_statements (hcall : Fulfils R call) {outer : List (List Tree)}
    (h : Program.automaton.runFrom (.statement ⟨[], outer⟩) s.here.stream = R) :
    wp (body call .statements) (fun b s' => AfterStatements R outer b s'.here) (Fails R) s :=
  wp_bind_of (hcall (.statement h)) fun _ _ h' => hcall (.moreStatements h')

lemma fulfils_moreStatements (hcall : Fulfils R call) {last : Tree} {current : List Tree}
    {outer : List (List Tree)}
    (h : Program.automaton.runFrom (.closed last ⟨current, outer⟩) s.here.stream = R) :
    wp (body call (.moreStatements (last :: current)))
      (fun b s' => AfterStatements R outer b s'.here) (Fails R) s := by
  rw [body, wp_bind, wp_lookahead]
  split
  case h_1 hx =>
    have hstep : Program.automaton.step (.closed last ⟨current, outer⟩) s.here.token.terminal =
        .ok (.statement ⟨last :: current, outer⟩) := by rw [hx]; rfl
    refine wp_bind_of (wp_advance_of_step h (by simp [hx]) hstep) fun _ s' h' => ?_
    exact wp_bind_of (hcall (.statement h')) fun _ _ h'' => hcall (.moreStatements h'')
  case h_2 hne => exact ⟨last, current, rfl, h, hne⟩

lemma fulfils_statement (hcall : Fulfils R call) {blocks : Program.Blocks}
    (h : Program.automaton.runFrom (.statement blocks) s.here.stream = R) :
    wp (body call .statement)
      (fun t s' => Program.automaton.runFrom (.closed t blocks) s'.here.stream = R)
      (Fails R) s := by
  rw [body, wp_bind, wp_lookahead]
  split
  case h_1 name hx => exact hcall (.block (.within blocks) h (Or.inr (by rw [hx]; rfl)))
  case h_2 name hx => exact hcall (.assignment h hx)
  case h_3 hbegin hname =>
    rw [wp_pure, ← h]
    refine runFrom_congr ?_ rfl
    rcases hx : s.here.token.terminal <;> simp_all <;> rfl

lemma fulfils_assignment (hcall : Fulfils R call) {blocks : Program.Blocks} {name : String}
    (h : Program.automaton.runFrom (.statement blocks) s.here.stream = R)
    (hname : s.here.token.terminal = .name name) :
    wp (body call .assignment)
      (fun t s' => Program.automaton.runFrom (.closed t blocks) s'.here.stream = R)
      (Fails R) s := by
  have htarget : wp eatName
      (fun name s' => Program.automaton.runFrom (.target name blocks) s'.here.stream = R)
      (Fails R) s := by
    refine wp_eatName h (fun name' hx => ?_) fun hno _ => absurd hname (hno name)
    rcases hx with hx | hx
    · rw [hx]
      rfl
    · rw [hname] at hx
      cases hx
  refine wp_bind_of htarget fun name s' h' => ?_
  have hdemands := Demands.target name blocks
  have hassign : wp (eat .assign)
      (fun _ s' => Program.automaton.runFrom (.value name (.operand .empty []) blocks)
        s'.here.stream = R) (Fails R) s' := by
    refine wp_eat h' (fun hmeets => ?_) hdemands.step_eq_error fun _ => hdemands.finish_eq_error
    rw [(meets_iff (y := .assign) rfl (by simp)).1 hmeets]
    rfl
  refine wp_bind_of hassign fun _ s₂ h₂ => ?_
  refine wp_bind_of (hcall (.expression (hosts_value name blocks) h₂)) fun e s₃ hafter => ?_
  obtain ⟨term, sum, rfl, hvalue, hnext⟩ := hafter
  -- The value and the statement that it completes do the same to a token that is no operator.
  rw [wp_pure, ← hvalue]
  refine runFrom_congr ?_ rfl
  simp only [Program.automaton, Program.State.step, Expression.State.finish,
    step_operator_eq_error hnext]

end

/-! ## All procedures -/

/-- **Procedures keep their word**: what each does fulfils its contract, if the procedures that it
calls do. -/
theorem fulfils_body {R : Except ParseError Tree} {call : Procedure → DescentM Tree}
    (hcall : Fulfils R call) : Fulfils R (body call) := by
  intro p s post h
  cases h with
  | program h => exact fulfils_program hcall h
  | block site h hsite => exact fulfils_block hcall site h hsite
  | statements h => exact fulfils_statements hcall h
  | moreStatements h => exact fulfils_moreStatements hcall h
  | statement h => exact fulfils_statement hcall h
  | assignment h hname => exact fulfils_assignment hcall h hname
  | expression hosts h => exact fulfils_expression hcall hosts h
  | moreTerms hosts h hnext => exact fulfils_moreTerms hcall hosts h hnext
  | term hosts h => exact fulfils_term hcall hosts h
  | moreFactors hosts h => exact fulfils_moreFactors hcall hosts h
  | factor hosts h => exact fulfils_factor hcall hosts h

/-- Calls fulfil the contracts, whatever the depth at which they are cut off. -/
theorem fulfils_run (R : Except ParseError Tree) (depth : Nat) (around : List Call) :
    Fulfils R (run depth around) := by
  induction depth generalizing around with
  | zero =>
    intro p s post _
    exact (wp_throw .tooDeep).2 trivial
  | succ depth ih =>
    intro p s post h
    exact wp_run_succ.2 (fulfils_body (ih _) h)

/-- A descent through a program comes to the tree of the program or to its error. -/
theorem wp_descend_program (text : String) (depth : Nat) :
    wp (descend depth .program) (fun t _ => parse text = .ok t) (Fails (parse text))
      (.start text) := by
  refine wp_bind_of (wp_advance_of_stream rfl) fun _ s h => ?_
  refine wp_bind_of (fulfils_run _ depth [] (.program h)) fun t s' h' => ?_
  exact wp_endOfInput h' rfl rfl

/-- A descent through an expression comes to the tree of the expression or to its error. -/
theorem wp_descend_expression (text : String) (depth : Nat) :
    wp (descend depth .expression) (fun t _ => parseExpr text = .ok t) (Fails (parseExpr text))
      (.start text) := by
  refine wp_bind_of (wp_advance_of_stream rfl) fun _ s h => ?_
  refine wp_bind_of (fulfils_run _ depth [] (.expression hosts_expression h)) fun t s' hafter => ?_
  obtain ⟨term, sum, rfl, h', hnext⟩ := hafter
  exact wp_endOfInput h' rfl (step_operator_eq_error hnext)

end BlockLang.Descent
