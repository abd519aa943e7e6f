import BlockLang.Grammar.Program
import BlockLang.Proofs.Grammar.Expression

set_option relaxedAutoImplicit false
set_option autoImplicit false

/-!
# Reading a program

The automaton of programs reads exactly the programs of the grammar, with their trees. Within an
assignment it does what the automaton of expressions does, and a token that this one refuses goes on
with the statements.

## Main definitions

* `BlockLang.Program.Ends` — the states in which a statement is complete.
* `BlockLang.Program.Takes` — the tokens that a state takes.
* `BlockLang.Program.State.Reads` — the tokens that led to a state.

## Main results

* `BlockLang.Program.step_eq_ok_iff` — a step in terms of kind and text of the token.
* `BlockLang.Program.Derives.reaches` — a program is read.
* `BlockLang.Program.reads_of_reaches` — what the tokens are that led to a state.
* `BlockLang.Program.accepts_iff_derives` — the automaton reads the grammar.
-/

namespace BlockLang.Program

open State

/-! ## Single steps -/

/-- The states in which a statement is complete, with the statement and the blocks that it may
join. -/
inductive Ends : State → Tree → Blocks → Prop where
  | empty {blocks : Blocks} : Ends (statement blocks) .noop blocks
  | assignment {name : String} {expression : Expression.State} {e : Tree} {blocks : Blocks}
      (he : expression.finish = .ok e) : Ends (value name expression blocks) (.assign name e) blocks
  | block {b : Tree} {blocks : Blocks} : Ends (closed b blocks) b blocks

/-- The tokens that a state takes, and the states that they lead to. -/
inductive Takes : State → Token → State → Prop where
  | start {t : Token} (ht : t.isKeyword "BEGIN" = true) : Takes start t (statement .empty)
  | push {t : Token} {blocks : Blocks} (ht : t.isKeyword "BEGIN" = true) :
      Takes (statement blocks) t (statement blocks.push)
  | target {t : Token} {blocks : Blocks} (ht : t.kind = .identifier)
      (hbegin : t.isKeyword "BEGIN" = false) (hend : t.isKeyword "END" = false) :
      Takes (statement blocks) t (target t.text blocks)
  | assign {t : Token} {name : String} {blocks : Blocks} (ht : t.is .sign ":=" = true) :
      Takes (target name blocks) t (value name .start blocks)
  | value {t : Token} {name : String} {blocks : Blocks} {expression expression' : Expression.State}
      (h : Expression.Takes expression t expression') :
      Takes (value name expression blocks) t (value name expression' blocks)
  | semicolon {t : Token} {s : State} {tree : Tree} {blocks : Blocks} (h : Ends s tree blocks)
      (ht : t.is .sign ";" = true) : Takes s t (statement (blocks.add tree))
  | close {t : Token} {s : State} {tree : Tree} {current inner : List Tree}
      {outer : List (List Tree)} (h : Ends s tree ⟨current, inner :: outer⟩)
      (ht : t.isKeyword "END" = true) :
      Takes s t (closed (.compound (tree :: current).reverse) ⟨inner, outer⟩)
  | last {t : Token} {s : State} {tree : Tree} {current : List Tree}
      (h : Ends s tree ⟨current, []⟩) (ht : t.isKeyword "END" = true) :
      Takes s t (period (.compound (tree :: current).reverse))
  | period {t : Token} {program : Tree} (ht : t.is .sign "." = true) :
      Takes (period program) t (finished program)

/-- A complete statement goes on as any statement does after it, unless the token begins another
one or belongs to its expression. -/
lemma step_of_ends {s : State} {tree : Tree} {blocks : Blocks} (h : Ends s tree blocks)
    {x : Terminal} (hx : x = .semicolon ∨ x = .blockEnd) :
    s.step x = afterStatement blocks tree x := by
  cases h with
  | empty => rcases hx with rfl | rfl <;> rfl
  | block => rfl
  | @assignment name expression e blocks he =>
    cases expression with
    | operand => simp [Expression.State.finish] at he
    | operator term sum outer =>
      cases outer with
      | cons => simp [Expression.State.finish] at he
      | nil =>
        simp only [Expression.State.finish, Except.ok.injEq] at he
        rcases hx with rfl | rfl <;>
          simp only [step, Expression.State.step, Expression.State.stepOperator,
            Expression.State.finish, he]

lemma step_of_takes {s s' : State} {t : Token} (h : Takes s t s') :
    s.step t.terminal = .ok s' := by
  cases h with
  | start ht => simp only [Token.terminal_eq_blockBegin_iff.2 ⟨ht, rfl⟩, step]
  | push ht => simp only [Token.terminal_eq_blockBegin_iff.2 ⟨ht, rfl⟩, step]
  | target ht hbegin hend => simp only [Token.terminal_eq_name_iff.2 ⟨ht, hbegin, hend, rfl⟩, step]
  | assign ht => simp only [(Token.terminal_eq_iff_is (x := .assign) rfl).2 ht, step]
  | value h => simp only [step, Expression.step_of_takes h]
  | semicolon h ht =>
    rw [(Token.terminal_eq_iff_is (x := .semicolon) rfl).2 ht, step_of_ends h (Or.inl rfl)]
    rfl
  | close h ht =>
    rw [Token.terminal_eq_blockEnd_iff.2 ht, step_of_ends h (Or.inr rfl)]
    rfl
  | last h ht =>
    rw [Token.terminal_eq_blockEnd_iff.2 ht, step_of_ends h (Or.inr rfl)]
    rfl
  | period ht => simp only [(Token.terminal_eq_iff_is (x := .period) rfl).2 ht, step]

lemma takes_of_afterStatement {s s' : State} {tree : Tree} {blocks : Blocks} {t : Token}
    (hends : Ends s tree blocks) (h : afterStatement blocks tree t.terminal = .ok s') :
    Takes s t s' := by
  obtain ⟨current, outer⟩ := blocks
  cases hx : t.terminal with
  | semicolon =>
    simp only [hx, afterStatement, Except.ok.injEq] at h
    rw [← h]
    exact .semicolon hends ((Token.terminal_eq_iff_is rfl).1 hx)
  | blockEnd =>
    have ht := Token.terminal_eq_blockEnd_iff.1 hx
    cases outer with
    | nil =>
      simp only [hx, afterStatement, Except.ok.injEq] at h
      rw [← h]
      exact .last hends ht
    | cons inner outer =>
      simp only [hx, afterStatement, Except.ok.injEq] at h
      rw [← h]
      exact .close hends ht
  | integer | blockBegin | name | operator | assign | period | openBracket | closeBracket
  | other => simp [hx, afterStatement] at h

lemma takes_of_step {s s' : State} {t : Token} (h : s.step t.terminal = .ok s') :
    Takes s t s' := by
  cases s with
  | start =>
    cases hx : t.terminal with
    | blockBegin name =>
      simp only [hx, step, Except.ok.injEq] at h
      rw [← h]
      exact .start (Token.terminal_eq_blockBegin_iff.1 hx).1
    | _ => simp [hx, step] at h
  | statement blocks =>
    cases hx : t.terminal with
    | blockBegin name =>
      simp only [hx, step, Except.ok.injEq] at h
      rw [← h]
      exact .push (Token.terminal_eq_blockBegin_iff.1 hx).1
    | name name =>
      obtain ⟨hkind, hbegin, hend, rfl⟩ := Token.terminal_eq_name_iff.1 hx
      simp only [hx, step, Except.ok.injEq] at h
      rw [← h]
      exact .target hkind hbegin hend
    | _ =>
      refine takes_of_afterStatement .empty ?_
      simpa only [hx, step] using h
  | target name blocks =>
    cases hx : t.terminal with
    | assign =>
      simp only [hx, step, Except.ok.injEq] at h
      rw [← h]
      exact .assign ((Token.terminal_eq_iff_is rfl).1 hx)
    | _ => simp [hx, step] at h
  | value name expression blocks =>
    -- A token that the expression refuses goes on with the statements if the expression may end.
    rcases hstep : expression.step t.terminal with refusal | expression'
    · rcases hfinish : expression.finish with refusal' | e
      · simp [step, hstep, hfinish] at h
      · refine takes_of_afterStatement (.assignment hfinish) ?_
        simpa only [step, hstep, hfinish] using h
    · simp only [step, hstep, Except.ok.injEq] at h
      rw [← h]
      exact .value (Expression.step_eq_ok_iff.1 hstep)
  | closed block blocks => exact takes_of_afterStatement .block h
  | period program =>
    cases hx : t.terminal with
    | period =>
      simp only [hx, step, Except.ok.injEq] at h
      rw [← h]
      exact .period ((Token.terminal_eq_iff_is rfl).1 hx)
    | _ => simp [hx, step] at h
  | finished program => simp [step] at h

/-- **A single step.** What a state does with a token is told by the token's kind and text. -/
theorem step_eq_ok_iff {s s' : State} {t : Token} :
    s.step t.terminal = .ok s' ↔ Takes s t s' :=
  ⟨takes_of_step, step_of_takes⟩

/-! ## Every program is read -/

lemma reaches_of_takes {s s' : State} {t : Token} (h : Takes s t s') :
    automaton.Reaches s [t] s' :=
  Automaton.reaches_single (step_of_takes h)

/-- What is read of an expression is read within an assignment. -/
lemma reaches_value {name : String} {blocks : Blocks} {expression expression' : Expression.State}
    {ts : List Token} (h : Expression.automaton.Reaches expression ts expression') :
    automaton.Reaches (value name expression blocks) ts (value name expression' blocks) := by
  induction ts generalizing expression with
  | nil =>
    obtain rfl : expression = expression' := h
    exact Automaton.reaches_nil _
  | cons t ts ih =>
    obtain ⟨u, hu, hts⟩ := h
    exact ⟨_, step_of_takes (.value (Expression.step_eq_ok_iff.1 hu)), ih hts⟩

/-- How the automaton gets over a part of a program: over a statement in any blocks, over the
statements of a block without its last semicolon, over a block within blocks and without. -/
def Part.Reached (ts : List Token) (t : Tree) : Part → Prop
  | .statement => ∀ blocks, ∃ s, Ends s t blocks ∧ automaton.Reaches (.statement blocks) ts s
  | .statements => ∀ outer, ∃ s tree current, Ends s tree ⟨current, outer⟩ ∧
    .compound (tree :: current).reverse = t ∧ automaton.Reaches (.statement ⟨[], outer⟩) ts s
  | .block => automaton.Reaches .start ts (.period t) ∧
    ∀ blocks, automaton.Reaches (.statement blocks) ts (.closed t blocks)
  | .program => automaton.Reaches .start ts (.finished t)

/-- A program is read, and so is each of its parts.

**Proof sketch.** Induction on the derivation. A statement that is complete joins its block when the
semicolon or the end of the block comes. -/
theorem Derives.reaches {p : Part} {ts : List Token} {t : Tree} (h : Derives p ts t) :
    p.Reached ts t := by
  induction h with
  | empty =>
    intro blocks
    exact ⟨_, .empty, Automaton.reaches_nil _⟩
  | assignment ht hbegin hend ha he =>
    intro blocks
    obtain ⟨s, hs, hfinish⟩ := Expression.accepts_iff_derives.2 he
    exact ⟨_, .assignment hfinish, (reaches_of_takes (.target ht hbegin hend)).append
      ((reaches_of_takes (.assign ha)).append (reaches_value hs))⟩
  | nested _ ih =>
    intro blocks
    exact ⟨_, .block, ih.2 blocks⟩
  | @first ts tree _ ih =>
    intro outer
    obtain ⟨s, hends, hs⟩ := ih ⟨[], outer⟩
    exact ⟨s, tree, [], hends, rfl, hs⟩
  | @next t ts us cs tree _ ht _ ihcs ih =>
    intro outer
    obtain ⟨s, last, current, hends, hcs, hs⟩ := ihcs outer
    obtain ⟨s', hends', hs'⟩ := ih ⟨last :: current, outer⟩
    obtain rfl : (last :: current).reverse = cs := Tree.compound.inj hcs
    refine ⟨s', tree, last :: current, hends', by simp, hs.append ?_⟩
    exact (reaches_of_takes (.semicolon hends ht)).append hs'
  | block hl _ hr ih =>
    constructor
    · obtain ⟨s, tree, current, hends, rfl, hs⟩ := ih []
      exact (reaches_of_takes (.start hl)).append (hs.append (reaches_of_takes (.last hends hr)))
    · intro blocks
      obtain ⟨s, tree, current, hends, rfl, hs⟩ := ih (blocks.current :: blocks.outer)
      exact (reaches_of_takes (.push hl)).append (hs.append (reaches_of_takes (.close hends hr)))
  | program _ ht ih => exact ih.1.append (reaches_of_takes (.period ht))

/-! ## Only programs are read -/

/-- The tokens of a block up to where a statement is to come, and its statements so far, the last
one first. -/
inductive BlockReads : List Token → List Tree → Prop where
  | opened {l : Token} (hl : l.isKeyword "BEGIN" = true) : BlockReads [l] []
  | semicolon {l t : Token} {ts : List Token} {current : List Tree}
      (hl : l.isKeyword "BEGIN" = true) (hts : Derives .statements ts (.compound current.reverse))
      (ht : t.is .sign ";" = true) : BlockReads (l :: (ts ++ [t])) current

/-- The tokens of some blocks, each within the next one, up to where a statement is to come. -/
inductive BlocksReads : List Token → List (List Tree) → Prop where
  | nil : BlocksReads [] []
  | cons {ts us : List Token} {current : List Tree} {outer : List (List Tree)}
      (houter : BlocksReads ts outer) (hcurrent : BlockReads us current) :
      BlocksReads (ts ++ us) (current :: outer)

/-- The tokens that led to a state. -/
inductive State.Reads : List Token → State → Prop where
  | start : Reads [] start
  | statement {ts : List Token} {blocks : Blocks}
      (hblocks : BlocksReads ts (blocks.current :: blocks.outer)) : Reads ts (statement blocks)
  | target {ts : List Token} {t : Token} {blocks : Blocks}
      (hblocks : BlocksReads ts (blocks.current :: blocks.outer)) (ht : t.kind = .identifier)
      (hbegin : t.isKeyword "BEGIN" = false) (hend : t.isKeyword "END" = false) :
      Reads (ts ++ [t]) (target t.text blocks)
  | value {ts us : List Token} {t a : Token} {blocks : Blocks} {expression : Expression.State}
      (hblocks : BlocksReads ts (blocks.current :: blocks.outer)) (ht : t.kind = .identifier)
      (hbegin : t.isKeyword "BEGIN" = false) (hend : t.isKeyword "END" = false)
      (ha : a.is .sign ":=" = true) (hus : Expression.State.Reads us expression) :
      Reads (ts ++ t :: a :: us) (value t.text expression blocks)
  | closed {ts us : List Token} {b : Tree} {blocks : Blocks}
      (hblocks : BlocksReads ts (blocks.current :: blocks.outer)) (hb : Derives .block us b) :
      Reads (ts ++ us) (closed b blocks)
  | period {ts : List Token} {b : Tree} (hb : Derives .block ts b) : Reads ts (period b)
  | finished {ts : List Token} {b : Tree} (hb : Derives .program ts b) : Reads ts (finished b)

variable {ts us : List Token} {tree : Tree}

/-- Where a statement is complete its tokens are the last ones. -/
lemma derives_of_ends {s : State} {blocks : Blocks} (h : State.Reads ts s)
    (hends : Ends s tree blocks) :
    ∃ us vs, ts = us ++ vs ∧ BlocksReads us (blocks.current :: blocks.outer) ∧
      Derives .statement vs tree := by
  cases hends with
  | empty =>
    cases h with
    | statement hblocks => exact ⟨ts, [], by simp, hblocks, .empty⟩
  | assignment he =>
    cases h with
    | value hblocks ht hbegin hend ha hus =>
      have hexpression := Expression.derives_of_finish hus he
      exact ⟨_, _, rfl, hblocks, .assignment ht hbegin hend ha hexpression⟩
  | block =>
    cases h with
    | closed hblocks hb => exact ⟨_, _, rfl, hblocks, .nested hb⟩

/-- A statement goes on a block. -/
lemma derives_statements {current : List Tree} (hcurrent : BlockReads ts current)
    (htree : Derives .statement us tree) :
    ∃ l vs, l.isKeyword "BEGIN" = true ∧ ts ++ us = l :: vs ∧
      Derives .statements vs (.compound (tree :: current).reverse) := by
  cases hcurrent with
  | @opened l hl => exact ⟨l, us, hl, rfl, .first htree⟩
  | @semicolon l t vs _ hl hvs ht =>
    refine ⟨l, vs ++ t :: us, hl, by simp, ?_⟩
    rw [List.reverse_cons]
    exact .next hvs ht htree

/-- A statement joins its block, and the block goes on or closes. -/
lemma State.Reads.ends {s : State} {blocks : Blocks} (h : State.Reads ts s)
    (hends : Ends s tree blocks) :
    ∃ us vs, ts = us ++ vs ∧ BlocksReads us blocks.outer ∧
      (∀ t : Token, t.is .sign ";" = true → BlockReads (vs ++ [t]) (tree :: blocks.current)) ∧
      ∀ t : Token, t.isKeyword "END" = true →
        Derives .block (vs ++ [t]) (.compound (tree :: blocks.current).reverse) := by
  obtain ⟨us, vs, rfl, hblocks, htree⟩ := derives_of_ends h hends
  cases hblocks with
  | @cons us ws _ _ houter hcurrent =>
    obtain ⟨l, vs', hl, hvs, hstatements⟩ := derives_statements hcurrent htree
    refine ⟨us, ws ++ vs, by simp, houter, fun t ht => ?_, fun t ht => ?_⟩
    · rw [hvs]
      exact .semicolon hl hstatements ht
    · rw [hvs]
      exact .block hl hstatements ht

/-- Every step keeps what a state says of the tokens that led to it. -/
theorem State.Reads.step {s s' : State} {t : Token} (h : State.Reads ts s) (hstep : Takes s t s') :
    State.Reads (ts ++ [t]) s' := by
  cases hstep with
  | start ht =>
    cases h with
    | start => exact .statement (.cons .nil (.opened ht))
  | push ht =>
    cases h with
    | statement hblocks => exact .statement (.cons hblocks (.opened ht))
  | target ht hbegin hend =>
    cases h with
    | statement hblocks => exact .target hblocks ht hbegin hend
  | assign ha =>
    cases h with
    | target hblocks ht hbegin hend =>
      simpa using State.Reads.value hblocks ht hbegin hend ha Expression.reads_start
  | value he =>
    cases h with
    | value hblocks ht hbegin hend ha hus =>
      simpa using State.Reads.value hblocks ht hbegin hend ha (hus.step he)
  | semicolon hends ht =>
    obtain ⟨us, vs, rfl, houter, hgoes, -⟩ := h.ends hends
    rw [List.append_assoc]
    exact .statement (.cons houter (hgoes t ht))
  | close hends ht =>
    obtain ⟨us, vs, rfl, houter, -, hcloses⟩ := h.ends hends
    rw [List.append_assoc]
    exact .closed houter (hcloses t ht)
  | last hends ht =>
    obtain ⟨us, vs, rfl, houter, -, hcloses⟩ := h.ends hends
    cases houter with
    | nil => exact .period (hcloses t ht)
  | period ht =>
    cases h with
    | period hb => exact .finished (.program hb ht)

/-- The tokens that led to a state are those that the state says.

**Proof sketch.** The state before the first token says that there are none, and every step keeps
what is said. -/
theorem reads_of_reaches {s : State} (h : automaton.Reaches .start ts s) : State.Reads ts s :=
  h.invariant .start fun _ _ _ _ hreads hstep => hreads.step (step_eq_ok_iff.1 hstep)

lemma derives_of_finish {s : State} (h : State.Reads ts s) (hfinish : s.finish = .ok tree) :
    Derives .program ts tree := by
  cases h with
  | finished hb =>
    obtain rfl : _ = tree := Except.ok.inj hfinish
    exact hb
  | @value _ _ _ _ _ expression =>
    rcases he : expression.finish with refusal | e <;> simp [State.finish, he] at hfinish
  | start | statement | target | closed | period => simp [State.finish] at hfinish

/-- **The automaton reads the grammar.** Tokens lead it to a state in which a program may end
exactly if they are a program, and the tree is that of the grammar. -/
theorem accepts_iff_derives {toks : List Token} {t : Tree} :
    automaton.Accepts toks t ↔ Derives .program toks t := by
  constructor
  · rintro ⟨s, hs, hfinish⟩
    exact derives_of_finish (reads_of_reaches hs) hfinish
  · intro h
    exact ⟨_, h.reaches, rfl⟩

end BlockLang.Program
