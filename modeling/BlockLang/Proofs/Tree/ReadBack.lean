import BlockLang.Proofs.Grammar.TooLarge
import BlockLang.Proofs.Tree.Normal
import BlockLang.Proofs.Tree.Reparse

set_option relaxedAutoImplicit false
set_option autoImplicit false

/-!
# Reading back the source text of any tree

The source text of a tree of a program's or an expression's shape is read back as the normal form of
the tree. Only the smallest integer cannot be read, and parsing stops where it comes first.

## Main definitions

* `BlockLang.Tree.ReadsBack` — what is read back from the text of a tree.

## Main results

* `BlockLang.Tree.IsExpressionShaped.written`, `BlockLang.Tree.IsStatementShaped.written` — the text
  of a tree is that of its normal form.
* `BlockLang.Tree.IsExpressionShaped.leadsToNumber`,
  `BlockLang.Tree.IsStatementShaped.leadsToNumber` — the text up to the first smallest integer.
* `BlockLang.source_reads_back` — what parsing makes of the text.
-/

namespace BlockLang

open BlockLang.Tree (Shows ShowsFirst)

/-! ## Texts without the smallest integer -/

/-- The text of a negative integer is the text of its negation with the sign before it. -/
lemma Tree.source_num_of_neg {v : Int64} (hneg : v.toInt < 0) (hv : v ≠ Int64.minValue) :
    (Tree.num v).source = UnaryOp.minus.symbol ++ (Tree.num (-v)).source := by
  have hpos : ¬ -v.toInt < 0 := by omega
  simp only [Tree.source, Decimal.ofInt64, Decimal.ofInt, Tree.toInt_neg hv, if_pos hneg,
    if_neg hpos, Int.natAbs_neg]
  rfl

/-- The text of an expression is read as an operand with its normal form, unless the smallest
integer is in it. -/
theorem Tree.IsExpressionShaped.written {e : Tree} (h : e.IsExpressionShaped)
    (hmin : ∀ before, ¬ Shows Int64.minValue e before) :
    Expression.Written .factor e.source.toList e.normal := by
  induction h with
  | num v =>
    have hv : v ≠ Int64.minValue := fun heq => hmin "" (heq ▸ .num)
    rw [Tree.normal]
    split
    · next hneg =>
      have hpos : 0 ≤ (-v).toInt := by rw [Tree.toInt_neg hv]; omega
      rw [Tree.source_num_of_neg hneg hv, String.toList_append]
      exact (Expression.written_num hpos).sign .minus
    · next hnonneg => exact Expression.written_num (Int.not_lt.1 hnonneg)
  | var hname hend => exact Expression.written_var hname hend
  | @unary op e _ ih =>
    have hwritten := Expression.written_unary op (ih fun before hbefore => hmin _ hbefore.unary)
    simpa [Tree.source, Tree.normal] using hwritten
  | @binary op l r _ _ ihl ihr =>
    have hwritten := Expression.written_binary op (ihl fun before hbefore => hmin _ hbefore.left)
      (ihr fun before hbefore => hmin _ hbefore.right)
    simpa [Tree.source, Tree.normal] using hwritten

namespace Program

/-- A block is read with a statement in it, if only the empty one. -/
lemma written_block_normal {children : List Tree}
    (h : ∀ child ∈ children, Written .statement child.source.toList child.normal) :
    Written .block (Tree.compound children).source.toList (Tree.compound children).normal := by
  rcases eq_or_ne children [] with rfl | hne
  · have hnoop : ∀ child ∈ [Tree.noop], Written .statement child.source.toList child := by
      intro child hchild
      obtain rfl := List.mem_singleton.1 hchild
      exact written_noop
    exact written_block id (by simp) hnoop
  · rw [Tree.normal_compound hne]
    exact written_block Tree.normal hne h

end Program

/-- The text of a statement is read as a statement with its normal form, unless the smallest integer
is in it. -/
theorem Tree.IsStatementShaped.written {s : Tree} (h : s.IsStatementShaped)
    (hmin : ∀ before, ¬ Shows Int64.minValue s before) :
    Program.Written .statement s.source.toList s.normal := by
  induction h with
  | noop => exact Program.written_noop
  | assign hname hbegin hend he =>
    have hwritten := Program.written_assign hname hbegin hend
      (he.written fun before hbefore => hmin _ hbefore.assign)
    simpa [Tree.source, Tree.normal] using hwritten
  | compound _ ih =>
    obtain ⟨toks, hwrites, hderives⟩ := Program.written_block_normal fun child hc =>
      ih child hc (Tree.not_shows_of_compound hmin hc)
    exact ⟨toks, hwrites, .nested hderives⟩

/-! ## Texts up to the smallest integer -/

namespace Expression

open State

variable {cs ds : List Char} {chain : Chain} {outer : List Chain}

lemma leadsToNumber_openBracket
    (h : automaton.LeadsToNumber (operand .empty (chain :: outer)) cs) :
    automaton.LeadsToNumber (operand chain outer) ("(".toList ++ cs) :=
  h.symbol (x := .openBracket) rfl rfl

lemma leadsToNumber_sign (op : UnaryOp)
    (h : automaton.LeadsToNumber (operand ⟨chain.sum, chain.product, op :: chain.signs⟩ outer) cs) :
    automaton.LeadsToNumber (operand chain outer) (op.symbol.toList ++ cs) := by
  obtain ⟨op', hsign, hsymbol⟩ := exists_sign?_eq op
  have hstep : automaton.step (operand chain outer) (.operator op') =
      .ok (operand ⟨chain.sum, chain.product, op :: chain.signs⟩ outer) := by
    simp only [automaton, step, stepOperand, hsign]
  have hleads := h.symbol (x := .operator op') rfl hstep
  rwa [hsymbol] at hleads

/-- An operand and an operator before a piece of text. -/
lemma leadsToNumber_operator (op : BinaryOp) {l : Tree} (hl : Written .factor cs l)
    (h : ∀ chain outer, automaton.LeadsToNumber (operand chain outer) ds) :
    automaton.LeadsToNumber (operand chain outer)
      (cs ++ ' ' :: (op.symbol.toList ++ ' ' :: ds)) := by
  obtain ⟨toks, hcs, hl⟩ := hl
  have hoperand : automaton.Reaches (operand chain outer) toks _ := hl.reaches chain outer
  refine .append hcs hoperand (endsWords_cons _ (by simp)) (.blank ?_)
  cases op with
  | plus | minus | multiply | divide =>
    exact (h _ _).blank.symbol (x := .operator _) rfl rfl

end Expression

/-- The text of an expression up to the first smallest integer is read.

**Proof sketch.** Induction on the tree. An operand to the left of the integer is all read, as it
does not show the integer itself. -/
theorem Tree.IsExpressionShaped.leadsToNumber {e : Tree} {before : String}
    (h : e.IsExpressionShaped) (hfirst : ShowsFirst Int64.minValue e before)
    (chain : Expression.Chain) (outer : List Expression.Chain) :
    Expression.automaton.LeadsToNumber (.operand chain outer) before.toList := by
  induction h generalizing before chain outer with
  | num v =>
    cases hfirst.1
    exact (Expression.awaitsNumber chain outer).leadsToNumber
  | var => cases hfirst.1
  | @unary op e _ ih =>
    cases hfirst.1 with
    | unary hshows =>
      have he := hfirst.of_part (fun _ hother => hother.unary) hshows
      have hsign : Expression.automaton.LeadsToNumber (.operand .empty (chain :: outer)) _ :=
        Expression.leadsToNumber_sign op (ih he _ _)
      simpa using Expression.leadsToNumber_openBracket hsign
  | @binary op l r hl _ ihl ihr =>
    cases hfirst.1 with
    | left hshows =>
      have hl := hfirst.of_part (fun _ hother => hother.left) hshows
      simpa using Expression.leadsToNumber_openBracket (ihl hl .empty (chain :: outer))
    | @right _ _ _ before hshows =>
      have hr := hfirst.of_part (fun _ hother => hother.right) hshows
      have hnot := hfirst.not_shows (fun _ hother => hother.left)
        (by simp only [String.length_append]; omega)
      have hoperator : Expression.automaton.LeadsToNumber (.operand .empty (chain :: outer)) _ :=
        Expression.leadsToNumber_operator op (hl.written hnot) (ihr hr)
      simpa using Expression.leadsToNumber_openBracket hoperator

namespace Program

open State

variable {cs ds : List Char} {blocks : Blocks} {s : State} {t : Tree}

/-- The beginning of an assignment before a piece of its expression. -/
lemma leadsToNumber_assign {name : String} (hname : IsName name)
    (hbegin : Token.foldCase name ≠ Token.foldCase "BEGIN")
    (hend : Token.foldCase name ≠ Token.foldCase "END")
    (h : Expression.automaton.LeadsToNumber .start cs) :
    automaton.LeadsToNumber (statement blocks)
      (name.toList ++ ' ' :: (":=".toList ++ ' ' :: cs)) := by
  have hspells : Token.Kind.identifier.Spells name.toList := hname
  have htarget : Takes (statement blocks) (.ofChars .identifier name.toList) _ :=
    .target rfl (Token.isKeyword_ofChars_eq_false hbegin) (Token.isKeyword_ofChars_eq_false hend)
  rw [Token.text_ofChars, String.ofList_toList] at htarget
  have hvalue : automaton.LeadsToNumber (value name .start blocks) (' ' :: cs) :=
    (leadsToNumber_value h).blank
  have hassign : automaton.LeadsToNumber (target name blocks) _ :=
    hvalue.symbol (x := .assign) rfl rfl
  exact .append (.word hspells) (reaches_of_takes htarget) (endsWords_cons _ (by simp))
    hassign.blank

/-- A statement and a semicolon before a piece of text. -/
lemma leadsToNumber_semicolon (ht : Written .statement cs t)
    (h : ∀ blocks, automaton.LeadsToNumber (statement blocks) ds) :
    automaton.LeadsToNumber (statement blocks) (cs ++ (";".toList ++ ' ' :: ds)) := by
  obtain ⟨toks, hcs, ht⟩ := ht
  obtain ⟨s, hends, hs⟩ := ht.reaches blocks
  have hsemicolon : automaton.step s .semicolon = .ok (statement (blocks.add t)) :=
    step_of_ends hends (Or.inl rfl)
  exact .append hcs hs (endsWords_cons (c := ';') _ (by simp))
    ((h _).blank.symbol (x := .semicolon) rfl hsemicolon)

/-- The statements before a piece of text in the same block. -/
lemma leadsToNumber_statements {children : List Tree} {before : String}
    (hchildren : ∀ child ∈ children, Written .statement child.source.toList child.normal)
    (h : ∀ blocks, automaton.LeadsToNumber (statement blocks) before.toList) :
    ∀ blocks, automaton.LeadsToNumber (statement blocks)
      (String.intercalate "; " (children.map Tree.source ++ [before])).toList := by
  induction children with
  | nil => simpa using h
  | cons child children ih =>
    intro blocks
    have hrest := ih fun c hc => hchildren c (List.mem_cons_of_mem child hc)
    have hleads : automaton.LeadsToNumber (statement blocks) _ :=
      leadsToNumber_semicolon (hchildren child List.mem_cons_self) hrest
    have hne : children.map Tree.source ++ [before] ≠ [] := by simp
    rw [List.map_cons, List.cons_append, String.intercalate_cons_of_ne_nil hne]
    simpa using hleads

/-- The beginning of a block before a piece of text in it. -/
lemma leadsToNumber_begin {s' : State}
    (hbegin : Takes s (.ofChars .identifier "BEGIN".toList) s')
    (h : automaton.LeadsToNumber s' cs) :
    automaton.LeadsToNumber s ("BEGIN".toList ++ ' ' :: cs) :=
  .append (.word Token.Kind.spells_begin) (reaches_of_takes hbegin) (endsWords_cons _ (by simp))
    h.blank

/-- A block up to the first smallest integer, if all its statements are read up to there. -/
lemma leadsToNumber_block {children : List Tree} {before : String}
    (hbegin : Takes s (.ofChars .identifier "BEGIN".toList) (statement blocks))
    (hchildren : ∀ child ∈ children, child.IsStatementShaped)
    (h : ∀ child ∈ children, ∀ before, ShowsFirst Int64.minValue child before →
      ∀ blocks, automaton.LeadsToNumber (statement blocks) before.toList)
    (hfirst : ShowsFirst Int64.minValue (.compound children) before) :
    automaton.LeadsToNumber s before.toList := by
  cases hfirst.1 with
  | @compound cs ds c before hshows =>
    have hcs : ∀ d ∈ cs, Written .statement d.source.toList d.normal := fun d hd =>
      (hchildren d (by simp [hd])).written (hfirst.not_shows_of_mem hd)
    have hc := h c (by simp) before (hfirst.of_compound hshows)
    simpa using leadsToNumber_begin hbegin (leadsToNumber_statements hcs hc blocks)

end Program

/-- The text of a statement up to the first smallest integer is read. -/
theorem Tree.IsStatementShaped.leadsToNumber {s : Tree} {before : String}
    (h : s.IsStatementShaped) (hfirst : ShowsFirst Int64.minValue s before)
    (blocks : Program.Blocks) :
    Program.automaton.LeadsToNumber (.statement blocks) before.toList := by
  induction h generalizing before blocks with
  | noop => cases hfirst.1
  | assign hname hbegin hend he =>
    cases hfirst.1 with
    | assign hshows =>
      have he' := he.leadsToNumber (hfirst.of_part (fun _ hother => hother.assign) hshows) .empty []
      have hassign : Program.automaton.LeadsToNumber (.statement blocks) _ :=
        Program.leadsToNumber_assign hname hbegin hend he'
      simpa using hassign
  | compound hchildren ih =>
    exact Program.leadsToNumber_block (.push (Token.isKeyword_self "BEGIN")) hchildren
      (fun child hc _ hfirst blocks => ih child hc hfirst blocks) hfirst

/-! ## Whole texts -/

/-- What is read back from the text of a tree: the normal form, which has the same meaning, unless
the smallest integer is in the text. Then it is an error at the first digit of the leftmost one. -/
structure Tree.ReadsBack (t : Tree) (result : Except ParseError Tree) : Prop where
  normal : (∀ before, ¬ Shows Int64.minValue t before) →
    result = .ok t.normal ∧ ∀ s, t.normal.run s = t.run s
  smallest : (∃ before, Shows Int64.minValue t before) →
    ∃ before after, ShowsFirst Int64.minValue t before ∧
      t.source = before ++ ("-9223372036854775808" ++ after) ∧
      result = .error (.integerTooLarge "9223372036854775808" (before.length + 1))

/-- What is read back from the text of a tree with some more text after it. -/
lemma Tree.readsBack_of_run {State : Type} (m : Automaton State) {t : Tree} {text : String}
    (rest : String) (htext : text = t.source ++ rest) (hrest : EndsWords rest.toList)
    (hrun : (∀ before, ¬ Shows Int64.minValue t before) → m.run (.ofText text) = .ok t.normal)
    (hleads : ∀ before, ShowsFirst Int64.minValue t before →
      m.LeadsToNumber m.start before.toList) :
    t.ReadsBack (m.run (.ofText text)) where
  normal hnot := ⟨hrun hnot, t.run_normal hnot⟩
  smallest := by
    rintro ⟨_, hshows⟩
    obtain ⟨before, hfirst⟩ := hshows.exists_showsFirst
    obtain ⟨after, hafter, hsource⟩ := hfirst.1.source_eq
    have hends : EndsWords (after ++ rest).toList := by simpa using hafter.append hrest
    have hmin : Decimal.ofInt64 Int64.minValue = "-9223372036854775808" := by decide +kernel
    have hsign : "-9223372036854775808" = "-" ++ "9223372036854775808" := by decide +kernel
    have hspells : Token.Kind.integer.Spells "9223372036854775808".toList :=
      ⟨by decide +kernel, List.all_eq_true.1 (by decide +kernel)⟩
    have herror := (hleads before hfirst).run_eq_error hspells (by decide +kernel) hends
    rw [hmin] at hsource
    refine ⟨before, after, hfirst, hsource, ?_⟩
    simpa only [htext, hsource, hsign, String.append_assoc] using herror

/-- **Reading back.** What parsing makes of the text of any tree of an expression's shape, and of
the text of any block of statements as a whole program. -/
theorem source_reads_back (t : Tree) :
    (t.IsExpressionShaped → t.ReadsBack (parseExpr t.source)) ∧
    ∀ children, t = .compound children → t.IsStatementShaped →
      t.ReadsBack (parse t.programSource) := by
  constructor
  · intro h
    exact Tree.readsBack_of_run Expression.automaton "" (by simp) (by simp)
      (fun hnot => parseExpr_of_written (h.written hnot))
      fun before hfirst => h.leadsToNumber hfirst .empty []
  · rintro children rfl h
    cases h with
    | compound hchildren =>
      have hends : EndsWords ".".toList := endsWords_cons (c := '.') [] (by simp)
      refine Tree.readsBack_of_run Program.automaton "." rfl hends (fun hnot => ?_)
        fun before hfirst => ?_
      · exact parse_of_written (Program.written_block_normal fun child hc =>
          (hchildren child hc).written (Tree.not_shows_of_compound hnot hc))
      · exact Program.leadsToNumber_block (.start (Token.isKeyword_self "BEGIN")) hchildren
          (fun child hc _ hfirst blocks => (hchildren child hc).leadsToNumber hfirst blocks) hfirst

/-- Negative integers and an empty block are read back, and the smallest integer is not. -/
theorem source_reads_back_negative_integers :
    (Tree.binary (.num (-5)) .minus (.unary .minus (.num (-5)))).ReadsBack
      (parseExpr "(-5 - (--5))") ∧
    (Tree.compound [.compound [], .assign "x" (.binary (.num (-5)) .minus
        (.unary .minus (.num Int64.minValue)))]).ReadsBack
      (parse "BEGIN BEGIN  END; x := (-5 - (--9223372036854775808)) END.") ∧
    parse "BEGIN BEGIN  END; x := (-5 - (--9223372036854775808)) END." =
      .error (.integerTooLarge "9223372036854775808" 32) := by
  refine ⟨?_, ?_, by decide +kernel⟩
  · have hreads := (source_reads_back (.binary (.num (-5)) .minus (.unary .minus (.num (-5))))).1
      (.binary (.num _) (.unary (.num _)))
    have hsource : (Tree.binary (.num (-5)) .minus (.unary .minus (.num (-5)))).source =
        "(-5 - (--5))" := by decide +kernel
    rwa [hsource] at hreads
  · have hname : IsName "x" := ⟨'x', [], rfl, by decide +kernel, by simp⟩
    have hassign : (Tree.assign "x" (.binary (.num (-5)) .minus
        (.unary .minus (.num Int64.minValue)))).IsStatementShaped :=
      .assign hname (by decide +kernel) (by decide +kernel) (.binary (.num _) (.unary (.num _)))
    have hempty : (Tree.compound []).IsStatementShaped := .compound (by simp)
    have hshaped : ∀ child ∈ [Tree.compound [], .assign "x" (.binary (.num (-5)) .minus
        (.unary .minus (.num Int64.minValue)))], child.IsStatementShaped := by
      simp [hempty, hassign]
    have hreads := (source_reads_back _).2 _ rfl (.compound hshaped)
    have hsource : (Tree.compound [.compound [], .assign "x" (.binary (.num (-5)) .minus
        (.unary .minus (.num Int64.minValue)))]).programSource =
        "BEGIN BEGIN  END; x := (-5 - (--9223372036854775808)) END." := by decide +kernel
    rwa [hsource] at hreads

end BlockLang
