import BlockLang.Grammar.Expression
import BlockLang.Proofs.Grammar.Derivation
import BlockLang.Proofs.Grammar.Run

set_option relaxedAutoImplicit false
set_option autoImplicit false

/-!
# Reading an expression

The automaton of expressions reads exactly the expressions of the grammar, with their trees. One way
round a derivation says how the automaton gets over its tokens; the other way round the tokens that
led to a state are described by the state, part by part of its chains, and every step keeps this.

## Main definitions

* `BlockLang.Expression.Takes` — the tokens that a state takes.
* `BlockLang.Expression.Chain.Reads`, `BlockLang.Expression.State.Reads` — the tokens that led to a
  chain and to a state.

## Main results

* `BlockLang.Expression.step_eq_ok_iff` — a step in terms of kind and text of the token.
* `BlockLang.Expression.Derives.reaches` — an expression is read.
* `BlockLang.Expression.reads_of_reaches` — what the tokens are that led to a state.
* `BlockLang.Expression.accepts_iff_derives` — the automaton reads the grammar.
-/

namespace BlockLang.Expression

open State

/-! ## Single steps -/

/-- The tokens that a state takes, and the states that they lead to. -/
inductive Takes : State → Token → State → Prop where
  | integer {chain : Chain} {outer : List Chain} {t : Token} {v : Int64} (ht : t.kind = .integer)
      (hv : v.toInt = Decimal.value t.text.toList) :
      Takes (operand chain outer) t (operator (chain.term (.num v)) chain.sum outer)
  | name {chain : Chain} {outer : List Chain} {t : Token} (ht : t.kind = .identifier)
      (hend : t.isKeyword "END" = false) :
      Takes (operand chain outer) t (operator (chain.term (.var t.text)) chain.sum outer)
  | openBracket {chain : Chain} {outer : List Chain} {t : Token}
      (ht : t.is .bracket "(" = true) :
      Takes (operand chain outer) t (operand .empty (chain :: outer))
  | sign {chain : Chain} {outer : List Chain} {t : Token} {op : UnaryOp}
      (ht : t.is .operator op.symbol = true) :
      Takes (operand chain outer) t (operand ⟨chain.sum, chain.product, op :: chain.signs⟩ outer)
  | product {term : Tree} {sum : Option Pending} {outer : List Chain} {t : Token} {op : BinaryOp}
      (hop : op = .multiply ∨ op = .divide) (ht : t.is .operator op.symbol = true) :
      Takes (operator term sum outer) t (operand ⟨sum, some ⟨term, op⟩, []⟩ outer)
  | sum {term : Tree} {sum : Option Pending} {outer : List Chain} {t : Token} {op : BinaryOp}
      (hop : op = .plus ∨ op = .minus) (ht : t.is .operator op.symbol = true) :
      Takes (operator term sum outer) t (operand ⟨some ⟨complete sum term, op⟩, none, []⟩ outer)
  | closeBracket {chain : Chain} {term : Tree} {sum : Option Pending} {outer : List Chain}
      {t : Token} (ht : t.is .bracket ")" = true) :
      Takes (operator term sum (chain :: outer)) t
        (operator (chain.term (complete sum term)) chain.sum outer)

/-- A sign is written as the operation of the same symbol. -/
lemma exists_sign?_eq (op : UnaryOp) :
    ∃ op' : BinaryOp, op'.sign? = some op ∧ op'.symbol = op.symbol := by
  cases op with
  | plus => exact ⟨.plus, rfl, rfl⟩
  | minus => exact ⟨.minus, rfl, rfl⟩

lemma step_of_takes {s s' : State} {t : Token} (h : Takes s t s') :
    s.step t.terminal = .ok s' := by
  cases h with
  | integer ht hv =>
    simp only [Token.terminal_eq_integer_iff.2 ⟨ht, rfl⟩, step, stepOperand,
      Decimal.literal?_eq_some_iff.2 hv]
  | name ht hend =>
    rcases hbegin : t.isKeyword "BEGIN" with _ | _
    · simp only [Token.terminal_eq_name_iff.2 ⟨ht, hbegin, hend, rfl⟩, step, stepOperand]
    · simp only [Token.terminal_eq_blockBegin_iff.2 ⟨hbegin, rfl⟩, step, stepOperand]
  | openBracket ht =>
    simp only [(Token.terminal_eq_iff_is (x := .openBracket) rfl).2 ht, step, stepOperand]
  | @sign _ _ _ op ht =>
    obtain ⟨op', hsign, hsymbol⟩ := exists_sign?_eq op
    rw [← hsymbol] at ht
    simp only [(Token.terminal_eq_iff_is (x := .operator op') rfl).2 ht, step, stepOperand, hsign]
  | product hop ht =>
    rw [(Token.terminal_eq_iff_is (x := .operator _) rfl).2 ht]
    rcases hop with rfl | rfl <;> rfl
  | sum hop ht =>
    rw [(Token.terminal_eq_iff_is (x := .operator _) rfl).2 ht]
    rcases hop with rfl | rfl <;> rfl
  | closeBracket ht =>
    simp only [(Token.terminal_eq_iff_is (x := .closeBracket) rfl).2 ht, step, stepOperator,
      if_pos]

lemma takes_of_stepOperand {chain : Chain} {outer : List Chain} {s' : State} {t : Token}
    (h : stepOperand chain outer t.terminal = .ok s') : Takes (operand chain outer) t s' := by
  cases hx : t.terminal with
  | integer digits =>
    obtain ⟨hkind, rfl⟩ := Token.terminal_eq_integer_iff.1 hx
    rcases hliteral : Decimal.literal? t.text.toList with _ | v
    · simp [hx, stepOperand, hliteral] at h
    · simp only [hx, stepOperand, hliteral, Except.ok.injEq] at h
      rw [← h]
      exact .integer hkind (Decimal.literal?_eq_some_iff.1 hliteral)
  | blockBegin name =>
    obtain ⟨hbegin, rfl⟩ := Token.terminal_eq_blockBegin_iff.1 hx
    simp only [hx, stepOperand, Except.ok.injEq] at h
    rw [← h]
    exact .name (Token.kind_of_isKeyword hbegin) (Token.isKeyword_end_eq_false hbegin)
  | name name =>
    obtain ⟨hkind, -, hend, rfl⟩ := Token.terminal_eq_name_iff.1 hx
    simp only [hx, stepOperand, Except.ok.injEq] at h
    rw [← h]
    exact .name hkind hend
  | openBracket =>
    simp only [hx, stepOperand, Except.ok.injEq] at h
    rw [← h]
    exact .openBracket ((Token.terminal_eq_iff_is rfl).1 hx)
  | operator op =>
    rcases hsign : op.sign? with _ | sign
    · simp [hx, stepOperand, hsign] at h
    · simp only [hx, stepOperand, hsign, Except.ok.injEq] at h
      rw [← h]
      refine .sign ?_
      rw [← BinaryOp.symbol_of_sign? hsign]
      exact (Token.terminal_eq_iff_is rfl).1 hx
  | blockEnd | assign | semicolon | period | closeBracket | other =>
    simp [hx, stepOperand] at h

lemma takes_of_stepOperator {term : Tree} {sum : Option Pending} {outer : List Chain} {s' : State}
    {t : Token} (h : stepOperator term sum outer t.terminal = .ok s') :
    Takes (operator term sum outer) t s' := by
  cases hx : t.terminal with
  | operator op =>
    have ht : t.is .operator op.symbol = true := (Token.terminal_eq_iff_is rfl).1 hx
    cases op with
    | multiply | divide =>
      simp only [hx, stepOperator, Except.ok.injEq] at h
      rw [← h]
      exact .product (by simp) ht
    | plus | minus =>
      simp only [hx, stepOperator, Except.ok.injEq] at h
      rw [← h]
      exact .sum (by simp) ht
  | closeBracket =>
    cases outer with
    | nil => simp [hx, stepOperator] at h
    | cons chain outer =>
      simp only [hx, stepOperator, if_pos, Except.ok.injEq] at h
      rw [← h]
      exact .closeBracket ((Token.terminal_eq_iff_is rfl).1 hx)
  | integer | blockBegin | blockEnd | name | assign | semicolon | period | openBracket | other =>
    cases outer <;> simp [hx, stepOperator] at h

/-- **A single step.** What a state does with a token is told by the token's kind and text. -/
theorem step_eq_ok_iff {s s' : State} {t : Token} :
    s.step t.terminal = .ok s' ↔ Takes s t s' := by
  refine ⟨fun h => ?_, step_of_takes⟩
  cases s with
  | operand => exact takes_of_stepOperand h
  | operator => exact takes_of_stepOperator h

/-! ## Every expression is read -/

/-- How the automaton gets over a part of an expression: over a factor from any chain, over a term
from a chain that waits for a term, over an expression from the empty chain. -/
def Part.Reached (ts : List Token) (e : Tree) : Part → Prop
  | .factor => ∀ chain outer,
    automaton.Reaches (operand chain outer) ts (operator (chain.term e) chain.sum outer)
  | .term => ∀ sum outer,
    automaton.Reaches (operand ⟨sum, none, []⟩ outer) ts (operator e sum outer)
  | .expression => ∀ outer, ∃ term sum, complete sum term = e ∧
    automaton.Reaches (operand .empty outer) ts (operator term sum outer)

lemma reaches_of_takes {s s' : State} {t : Token} (h : Takes s t s') :
    automaton.Reaches s [t] s' :=
  Automaton.reaches_single (step_of_takes h)

/-- An expression is read, and so is each of its parts.

**Proof sketch.** Induction on the derivation. What is read before an operator goes into the chain,
and the right operand completes it there; a bracket puts the chain aside and gets it back. -/
theorem Derives.reaches {p : Part} {ts : List Token} {e : Tree} (h : Derives p ts e) :
    p.Reached ts e := by
  induction h with
  | sign ht _ ih =>
    intro chain outer
    exact (reaches_of_takes (.sign ht)).append (ih _ outer)
  | integer ht hv =>
    intro chain outer
    exact reaches_of_takes (.integer ht hv)
  | @bracket l r ts e hl _ hr ih =>
    intro chain outer
    obtain ⟨term, sum, rfl, hts⟩ := ih (chain :: outer)
    exact (reaches_of_takes (.openBracket hl)).append
      (hts.append (reaches_of_takes (.closeBracket hr)))
  | name ht hend =>
    intro chain outer
    exact reaches_of_takes (.name ht hend)
  | factor _ ih =>
    intro sum outer
    exact ih ⟨sum, none, []⟩ outer
  | product _ hop ht _ ihl ihr =>
    intro sum outer
    exact (ihl sum outer).append ((reaches_of_takes (.product hop ht)).append (ihr _ outer))
  | @term ts e _ ih =>
    intro outer
    exact ⟨e, none, rfl, ih none outer⟩
  | @sum t op ts us l r _ hop ht _ ihl ihr =>
    intro outer
    obtain ⟨term, sum, rfl, hts⟩ := ihl outer
    exact ⟨r, _, rfl, hts.append ((reaches_of_takes (.sum hop ht)).append (ihr _ outer))⟩

/-! ## Only expressions are read -/

/-- The tokens of an operation that waits for its right operand, with the parts of the grammar that
it and its left operand belong to. -/
inductive PendingReads (p : Part) (ops : List BinaryOp) : List Token → Option Pending → Prop where
  | none : PendingReads p ops [] none
  | some {ts : List Token} {t : Token} {left : Tree} {op : BinaryOp} (hleft : Derives p ts left)
      (hop : op ∈ ops) (ht : t.is .operator op.symbol = true) :
      PendingReads p ops (ts ++ [t]) (some ⟨left, op⟩)

/-- The tokens of signs, the last one of which stands first in the list of signs. -/
inductive SignsReads : List Token → List UnaryOp → Prop where
  | nil : SignsReads [] []
  | snoc {ts : List Token} {t : Token} {signs : List UnaryOp} {op : UnaryOp}
      (h : SignsReads ts signs) (ht : t.is .operator op.symbol = true) :
      SignsReads (ts ++ [t]) (op :: signs)

/-- The tokens that led to a chain. -/
inductive Chain.Reads : List Token → Chain → Prop where
  | intro {ts us vs : List Token} {sum product : Option Pending} {signs : List UnaryOp}
      (hsum : PendingReads .expression [.plus, .minus] ts sum)
      (hproduct : PendingReads .term [.multiply, .divide] us product)
      (hsigns : SignsReads vs signs) : Reads (ts ++ (us ++ vs)) ⟨sum, product, signs⟩

/-- The tokens that led to the chains around some open brackets, the brackets included. -/
inductive OuterReads : List Token → List Chain → Prop where
  | nil : OuterReads [] []
  | cons {ts us : List Token} {l : Token} {chain : Chain} {outer : List Chain}
      (houter : OuterReads ts outer) (hchain : chain.Reads us) (hl : l.is .bracket "(" = true) :
      OuterReads (ts ++ (us ++ [l])) (chain :: outer)

/-- The tokens that led to a state. -/
inductive State.Reads : List Token → State → Prop where
  | operand {ts us : List Token} {chain : Chain} {outer : List Chain}
      (houter : OuterReads ts outer) (hchain : chain.Reads us) :
      Reads (ts ++ us) (operand chain outer)
  | operator {ts us vs : List Token} {term : Tree} {sum : Option Pending} {outer : List Chain}
      (houter : OuterReads ts outer) (hsum : PendingReads .expression [.plus, .minus] us sum)
      (hterm : Derives .term vs term) : Reads (ts ++ (us ++ vs)) (operator term sum outer)

lemma Chain.reads_empty : Chain.empty.Reads [] := by
  have hreads := Chain.Reads.intro .none .none .nil
  exact hreads

variable {ts us : List Token} {e : Tree}

lemma derives_signs {signs : List UnaryOp} (hsigns : SignsReads ts signs)
    (he : Derives .factor us e) :
    Derives .factor (ts ++ us) (signs.foldl (fun e sign => .unary sign e) e) := by
  induction hsigns generalizing us e with
  | nil => exact he
  | snoc _ ht ih =>
    rw [List.append_assoc]
    exact ih (.sign ht he)

lemma derives_product {product : Option Pending}
    (hproduct : PendingReads .term [.multiply, .divide] ts product)
    (he : Derives .factor us e) : Derives .term (ts ++ us) (complete product e) := by
  cases hproduct with
  | none => exact .factor he
  | some hleft hop ht =>
    rw [List.append_assoc]
    exact .product hleft (by simpa using hop) ht he

lemma derives_sum {sum : Option Pending} (hsum : PendingReads .expression [.plus, .minus] ts sum)
    (he : Derives .term us e) : Derives .expression (ts ++ us) (complete sum e) := by
  cases hsum with
  | none => exact .term he
  | some hleft hop ht =>
    rw [List.append_assoc]
    exact .sum hleft (by simpa using hop) ht he

/-- An operand makes a term of what the chain has of it. -/
lemma reads_operator {vs : List Token} {chain : Chain} {outer : List Chain}
    (houter : OuterReads ts outer) (hchain : chain.Reads us) (he : Derives .factor vs e) :
    State.Reads (ts ++ (us ++ vs)) (operator (chain.term e) chain.sum outer) := by
  cases hchain with
  | intro hsum hproduct hsigns =>
    have hterm := derives_product hproduct (derives_signs hsigns he)
    simpa [Chain.term] using State.Reads.operator houter hsum hterm

/-- Every step keeps what a state says of the tokens that led to it. -/
theorem State.Reads.step {s s' : State} {t : Token} (h : State.Reads ts s) (hstep : Takes s t s') :
    State.Reads (ts ++ [t]) s' := by
  cases h with
  | @operand ts us chain outer houter hchain =>
    rw [List.append_assoc]
    cases hstep with
    | integer ht hv => exact reads_operator houter hchain (.integer ht hv)
    | name ht hend => exact reads_operator houter hchain (.name ht hend)
    | openBracket ht =>
      simpa using State.Reads.operand (.cons houter hchain ht) Chain.reads_empty
    | sign ht =>
      cases hchain with
      | intro hsum hproduct hsigns =>
        simpa using State.Reads.operand houter (.intro hsum hproduct (hsigns.snoc ht))
  | @operator ts us vs term sum outer houter hsum hterm =>
    simp only [List.append_assoc]
    cases hstep with
    | @product _ _ _ _ op hop ht =>
      have hmem : op ∈ [.multiply, .divide] := by simpa using hop
      have hproduct := PendingReads.some hterm hmem ht
      simpa using State.Reads.operand houter (.intro hsum hproduct .nil)
    | @sum _ _ _ _ op hop ht =>
      have hmem : op ∈ [.plus, .minus] := by simpa using hop
      have hsum' := PendingReads.some (derives_sum hsum hterm) hmem ht
      have hchain := Chain.Reads.intro hsum' .none .nil
      simpa using State.Reads.operand houter hchain
    | closeBracket ht =>
      cases houter with
      | cons houter hchain hl =>
        -- The brackets and all between them are an operand of the chain that was put aside.
        have hfactor := Derives.bracket hl (derives_sum hsum hterm) ht
        simpa using reads_operator houter hchain hfactor

lemma reads_start : State.Reads [] .start := by
  have hreads := State.Reads.operand .nil Chain.reads_empty
  exact hreads

/-- The tokens that led to a state are those that the state says.

**Proof sketch.** The state before the first token says that there are none, and every step keeps
what is said. -/
theorem reads_of_reaches {s : State} (h : automaton.Reaches .start ts s) : State.Reads ts s :=
  h.invariant reads_start fun _ _ _ _ hreads hstep => hreads.step (step_eq_ok_iff.1 hstep)

lemma derives_of_finish {s : State} (h : State.Reads ts s) (hfinish : s.finish = .ok e) :
    Derives .expression ts e := by
  cases h with
  | operand => simp [State.finish] at hfinish
  | operator houter hsum hterm =>
    cases houter with
    | cons => simp [State.finish] at hfinish
    | nil =>
      simp only [State.finish, Except.ok.injEq] at hfinish
      rw [← hfinish]
      simpa using derives_sum hsum hterm

/-- **The automaton reads the grammar.** Tokens lead it to a state in which an expression may end
exactly if they are an expression, and the tree is that of the grammar. -/
theorem accepts_iff_derives {toks : List Token} {t : Tree} :
    automaton.Accepts toks t ↔ Derives .expression toks t := by
  constructor
  · rintro ⟨s, hs, hfinish⟩
    exact derives_of_finish (reads_of_reaches hs) hfinish
  · intro h
    obtain ⟨term, sum, rfl, hs⟩ := h.reaches []
    exact ⟨_, hs, rfl⟩

end BlockLang.Expression
