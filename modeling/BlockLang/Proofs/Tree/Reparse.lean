import BlockLang.Proofs.Grammar.Piece
import BlockLang.Proofs.Tree.Printable
import BlockLang.Tree.Source
import Mathlib.Tactic.TFAE

set_option relaxedAutoImplicit false
set_option autoImplicit false

/-!
# Parsing the source text of a tree

The source text of a tree that parsing makes is read as tokens of this tree: the words of it end
where the printing goes on with a blank, a bracket, a semicolon or a period. So parsing it gives the
tree again, and the trees for which this is so are just the trees that parsing makes.

## Main definitions

* `BlockLang.Expression.Written`, `BlockLang.Program.Written` — a piece of text is a part of an
  expression or a program with a certain tree.

## Main results

* `BlockLang.Tree.IsExpression.written` — the source text of an expression.
* `BlockLang.Tree.IsStatement.written` — the source text of a statement.
* `BlockLang.reparses_tfae` — which trees parsing makes and makes again of their source text.
-/

namespace BlockLang

/-! ## Expressions -/

namespace Expression

/-- The piece of text is, wherever words end after it, a part of an expression with the tree. -/
def Written (p : Part) (cs : List Char) (e : Tree) : Prop :=
  ∃ toks, Writes cs toks ∧ Derives p toks e

variable {cs cs' : List Char} {e l r : Tree}

lemma Written.term (h : Written .factor cs e) : Written .term cs e := by
  obtain ⟨toks, hcs, he⟩ := h
  exact ⟨toks, hcs, .factor he⟩

lemma Written.of_term (h : Written .term cs e) : Written .expression cs e := by
  obtain ⟨toks, hcs, he⟩ := h
  exact ⟨toks, hcs, .term he⟩

lemma Written.expression (h : Written .factor cs e) : Written .expression cs e :=
  h.term.of_term

lemma written_num {v : Int64} (hv : 0 ≤ v.toInt) :
    Written .factor (Tree.num v).source.toList (.num v) := by
  have hsource : (Tree.num v).source.toList = Decimal.digits v.toInt.natAbs := by
    simp [Tree.source, Decimal.ofInt64, Decimal.ofInt, Int.not_lt.2 hv]
  have hspells : Token.Kind.integer.Spells (Decimal.digits v.toInt.natAbs) :=
    ⟨Decimal.digits_ne_nil _, fun _ => Decimal.isDigit_of_mem_digits⟩
  rw [hsource]
  refine ⟨_, .word hspells, .integer rfl ?_⟩
  rw [Token.text_ofChars, String.toList_ofList, Decimal.value_digits]
  omega

lemma written_var {name : String} (hname : IsName name)
    (hend : Token.foldCase name ≠ Token.foldCase "END") :
    Written .factor (Tree.var name).source.toList (.var name) := by
  have hderives := Derives.name (t := .ofChars .identifier name.toList) rfl
    (Token.isKeyword_ofChars_eq_false hend)
  rw [Token.text_ofChars, String.ofList_toList] at hderives
  have hspells : Token.Kind.identifier.Spells name.toList := hname
  exact ⟨_, .word hspells, hderives⟩

lemma written_bracket (h : Written .expression cs e) :
    Written .factor ("(".toList ++ (cs ++ ")".toList)) e := by
  obtain ⟨toks, hcs, he⟩ := h
  have hclose := (Terminal.spells_of_symbol? (x := .closeBracket) rfl).1
  have hends : EndsWords [')'] := endsWords_cons [] (by simp)
  have hwrites : Writes (cs ++ ")".toList) _ := hcs.append hends (.word hclose)
  exact ⟨_, hwrites.symbol (x := .openBracket) rfl,
    .bracket (Token.is_ofChars _ _) he (Token.is_ofChars _ _)⟩

/-- A sign before an operand. -/
lemma Written.sign (op : UnaryOp) (h : Written .factor cs e) :
    Written .factor (op.symbol.toList ++ cs) (.unary op e) := by
  obtain ⟨toks, hcs, he⟩ := h
  obtain ⟨op', -, hsymbol⟩ := exists_sign?_eq op
  have hwrites := hcs.symbol (x := .operator op') rfl
  rw [hsymbol] at hwrites
  exact ⟨_, hwrites, .sign (Token.is_ofChars _ _) he⟩

lemma written_unary (op : UnaryOp) (h : Written .factor cs e) :
    Written .factor ("(".toList ++ (op.symbol.toList ++ cs ++ ")".toList)) (.unary op e) :=
  written_bracket (h.sign op).expression

/-- Two operands and an operation between them are put together as parts of the grammar are. -/
lemma Written.operation {p q p' : Part} (op : BinaryOp) (hl : Written p cs l)
    (hr : Written q cs' r)
    (h : ∀ ts us t, Derives p ts l → t.is .operator op.symbol = true → Derives q us r →
      Derives p' (ts ++ t :: us) (.binary l op r)) :
    Written p' (cs ++ ' ' :: (op.symbol.toList ++ ' ' :: cs')) (.binary l op r) := by
  obtain ⟨toks, hcs, hl⟩ := hl
  obtain ⟨toks', hcs', hr⟩ := hr
  have hsymbol := hcs'.blank.symbol (x := .operator op) rfl
  exact ⟨_, hcs.append (endsWords_cons _ (by simp)) hsymbol.blank,
    h _ _ _ hl (Token.is_ofChars .operator op.symbol) hr⟩

/-- One more factor of a term. -/
lemma Written.product {op : BinaryOp} (hop : op = .multiply ∨ op = .divide)
    (hl : Written .term cs l) (hr : Written .factor cs' r) :
    Written .term (cs ++ ' ' :: (op.symbol.toList ++ ' ' :: cs')) (.binary l op r) :=
  .operation op hl hr fun _ _ _ hl ht hr => .product hl hop ht hr

/-- One more term of an expression. -/
lemma Written.sum {op : BinaryOp} (hop : op = .plus ∨ op = .minus)
    (hl : Written .expression cs l) (hr : Written .term cs' r) :
    Written .expression (cs ++ ' ' :: (op.symbol.toList ++ ' ' :: cs')) (.binary l op r) :=
  .operation op hl hr fun _ _ _ hl ht hr => .sum hl hop ht hr

lemma written_binary (op : BinaryOp) (hl : Written .factor cs l) (hr : Written .factor cs' r) :
    Written .factor ("(".toList ++ (cs ++ (' ' :: (op.symbol.toList ++ ' ' :: cs')) ++ ")".toList))
      (.binary l op r) := by
  refine written_bracket ?_
  cases op with
  | plus | minus => exact .sum (by simp) hl.expression hr.term
  | multiply | divide => exact (Written.product (by simp) hl.term hr).of_term

end Expression

/-- The source text of an expression is read as an operand with its tree.

**Proof sketch.** Induction on the tree. Every operation stands in brackets, so it is an operand
again, and words end before the blanks and the bracket after them. -/
theorem Tree.IsExpression.written {e : Tree} (h : e.IsExpression) :
    Expression.Written .factor e.source.toList e := by
  induction h with
  | num hv => exact Expression.written_num hv
  | var hname hend => exact Expression.written_var hname hend
  | @unary op e _ ih =>
    have hwritten := Expression.written_unary op ih
    simpa [Tree.source] using hwritten
  | @binary op l r _ _ ihl ihr =>
    have hwritten := Expression.written_binary op ihl ihr
    simpa [Tree.source] using hwritten

/-! ## Statements and programs -/

namespace Program

/-- The piece of text is, wherever words end after it, a part of a program with the tree. -/
def Written (p : Part) (cs : List Char) (t : Tree) : Prop :=
  ∃ toks, Writes cs toks ∧ Derives p toks t

variable {cs cs' : List Char} {children : List Tree} {b s : Tree}

lemma written_noop : Written .statement [] .noop :=
  ⟨[], .nil, .empty⟩

lemma written_assign {name : String} {e : Tree} (hname : IsName name)
    (hbegin : Token.foldCase name ≠ Token.foldCase "BEGIN")
    (hend : Token.foldCase name ≠ Token.foldCase "END") (h : Expression.Written .factor cs e) :
    Written .statement (name.toList ++ ' ' :: (":=".toList ++ ' ' :: cs)) (.assign name e) := by
  obtain ⟨toks, hcs, he⟩ := h.expression
  have hspells : Token.Kind.identifier.Spells name.toList := hname
  have hwrites := hcs.blank.symbol (x := .assign) rfl
  have hderives := Derives.assignment (t := .ofChars .identifier name.toList) rfl
    (Token.isKeyword_ofChars_eq_false hbegin) (Token.isKeyword_ofChars_eq_false hend)
    (Token.is_ofChars _ _) he
  rw [Token.text_ofChars, String.ofList_toList] at hderives
  exact ⟨_, (Writes.word hspells).append (endsWords_cons _ (by simp)) hwrites.blank, hderives⟩

/-- One more statement, after a semicolon. -/
lemma written_next (hcs : Written .statements cs (.compound children))
    (hs : Written .statement cs' s) :
    Written .statements (cs ++ (";".toList ++ ' ' :: cs')) (.compound (children ++ [s])) := by
  obtain ⟨toks, hcs, hchildren⟩ := hcs
  obtain ⟨toks', hcs', hs⟩ := hs
  have hwrites := hcs'.blank.symbol (x := .semicolon) rfl
  have hends : EndsWords (";".toList ++ ' ' :: cs') := endsWords_cons (c := ';') _ (by simp)
  exact ⟨_, hcs.append hends hwrites, .next hchildren (Token.is_ofChars _ _) hs⟩

/-- Statements are written with semicolons between them. Each may be read as another tree than the
one that is written. -/
lemma written_statements (read : Tree → Tree) (hne : children ≠ [])
    (h : ∀ child ∈ children, Written .statement child.source.toList (read child)) :
    Written .statements (String.intercalate "; " (children.map Tree.source)).toList
      (.compound (children.map read)) := by
  -- The grammar adds statements at the end, so the induction goes by the last one.
  induction children using List.reverseRecOn with
  | nil => exact absurd rfl hne
  | append_singleton init last ih =>
    have hlast : Written .statement last.source.toList (read last) := h last (by simp)
    rcases eq_or_ne init [] with rfl | hinit
    · obtain ⟨toks, hwrites, hderives⟩ := hlast
      exact ⟨toks, by simpa using hwrites, .first hderives⟩
    · have hwritten := written_next (ih hinit fun child hc => h child (by simp [hc])) hlast
      rw [List.map_append, String.intercalate_append_of_ne_nil (by simpa using hinit) (by simp)]
      simpa using hwritten

/-- A block is written with its statements between the keywords. -/
lemma Written.block (h : Written .statements cs b) :
    Written .block ("BEGIN".toList ++ ' ' :: (cs ++ ' ' :: "END".toList)) b := by
  obtain ⟨toks, hwrites, hderives⟩ := h
  have hblock := (Writes.word Token.Kind.spells_begin).append (endsWords_cons _ (by simp))
    (hwrites.append (endsWords_cons _ (by simp)) (Writes.word Token.Kind.spells_end).blank).blank
  exact ⟨_, hblock, .block (Token.isKeyword_self "BEGIN") hderives (Token.isKeyword_self "END")⟩

lemma written_block (read : Tree → Tree) (hne : children ≠ [])
    (h : ∀ child ∈ children, Written .statement child.source.toList (read child)) :
    Written .block (Tree.compound children).source.toList (.compound (children.map read)) := by
  simpa [Tree.source, Tree.sources_eq_map] using (written_statements read hne h).block

lemma written_program (h : Written .block cs b) : Written .program (cs ++ ".".toList) b := by
  obtain ⟨toks, hcs, hb⟩ := h
  have hsign := (Terminal.spells_of_symbol? (x := .period) rfl).1
  have hends : EndsWords ['.'] := endsWords_cons [] (by simp)
  exact ⟨_, hcs.append hends (.word hsign), .program hb (Token.is_ofChars _ _)⟩

end Program

/-- The source text of a statement is read as a statement with its tree.

**Proof sketch.** Induction on the tree. A block goes on after each statement with a semicolon or
with a blank, and words end before both. -/
theorem Tree.IsStatement.written {s : Tree} (h : s.IsStatement) :
    Program.Written .statement s.source.toList s := by
  induction h with
  | noop => exact Program.written_noop
  | assign hname hbegin hend he =>
    have hwritten := Program.written_assign hname hbegin hend he.written
    simpa [Tree.source] using hwritten
  | compound hne _ ih =>
    obtain ⟨toks, hwrites, hblock⟩ := Program.written_block id hne ih
    exact ⟨toks, hwrites, .nested (by simpa using hblock)⟩

/-! ## Whole texts -/

lemma parseExpr_of_written {t e : Tree} (h : Expression.Written .factor t.source.toList e) :
    parseExpr t.source = .ok e := by
  obtain ⟨toks, hwrites, hderives⟩ := h.expression
  exact parseExpr_eq_ok_iff.2 ⟨toks, hwrites [] endsWords_nil, hderives⟩

lemma parse_of_written {t b : Tree} (h : Program.Written .block t.source.toList b) :
    parse t.programSource = .ok b := by
  obtain ⟨toks, hwrites, hderives⟩ := Program.written_program h
  refine parse_eq_ok_iff.2 ⟨toks, ?_, hderives⟩
  simpa [Tree.programSource] using hwrites [] endsWords_nil

lemma parseExpr_source {t : Tree} (h : t.IsExpression) : parseExpr t.source = .ok t :=
  parseExpr_of_written h.written

lemma parse_programSource {children : List Tree} (h : (Tree.compound children).IsStatement) :
    parse (Tree.compound children).programSource = .ok (.compound children) := by
  cases h with
  | compound hne hchildren =>
    have hblock := Program.written_block id hne fun child hc => (hchildren child hc).written
    rw [List.map_id] at hblock
    exact parse_of_written hblock

/-- **The trees that parsing makes.** A text is parsed to a tree exactly if the tree is one of an
expression, and exactly if its own source text is parsed to it; the same with blocks for programs.
-/
theorem reparses_tfae (t : Tree) :
    [∃ text, parseExpr text = .ok t, t.IsExpression, parseExpr t.source = .ok t].TFAE ∧
    [∃ text, parse text = .ok t, t.IsStatement ∧ ∃ children, t = .compound children,
      parse t.programSource = .ok t].TFAE := by
  constructor
  · tfae_have 1 → 2 := fun ⟨text, h⟩ => isExpression_of_parseExpr h
    tfae_have 2 → 3 := parseExpr_source
    tfae_have 3 → 1 := fun h => ⟨t.source, h⟩
    tfae_finish
  · tfae_have 1 → 2 := fun ⟨text, h⟩ => isStatement_of_parse h
    tfae_have 2 → 3 := by
      rintro ⟨h, children, rfl⟩
      exact parse_programSource h
    tfae_have 3 → 1 := fun h => ⟨t.programSource, h⟩
    tfae_finish

end BlockLang
