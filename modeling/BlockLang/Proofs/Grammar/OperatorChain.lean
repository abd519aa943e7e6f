import BlockLang.Proofs.Tree.Reparse

set_option relaxedAutoImplicit false
set_option autoImplicit false

/-!
# Chains of operators

Operands with operations between them are read without brackets around the operations: first the
operands are joined that have a multiplication or a division between them, and then what comes out
of these runs is joined by the additions and subtractions, both from the left to the right. A sign
belongs to the one operand after it, even where it stands right after an operation.

## Main definitions

* `BlockLang.OperatorChain` — operands with an operation between each two of them.
* `BlockLang.OperatorChain.runs` — a chain cut at its additions and subtractions.
* `BlockLang.OperatorChain.text`, `BlockLang.OperatorChain.tree` — a chain written in a row, and
  joined from the left to the right.
* `BlockLang.Operand` — signs before an expression in brackets.

## Main results

* `BlockLang.OperatorChain.isRun_runs` — which operations stand within the runs and between them.
* `BlockLang.OperatorChain.text_runs` — the runs in a row are the chain.
* `BlockLang.operators_group_by_precedence` — the tree of a chain.
-/

namespace BlockLang

/-! ## Chains and their runs -/

/-- Operands with an operation between each two of them. -/
structure OperatorChain (α : Type) where
  first : α
  rest : List (BinaryOp × α)

namespace OperatorChain

variable {α : Type}

/-- A chain with one more operand and operation before it. -/
def cons (x : α) (op : BinaryOp) (c : OperatorChain α) : OperatorChain α :=
  ⟨x, (op, c.first) :: c.rest⟩

/-- The chain written in a row, with a space on each side of an operation. -/
def text (f : α → String) (c : OperatorChain α) : String :=
  f c.first ++ String.join (c.rest.map fun x => " " ++ x.1.symbol ++ " " ++ f x.2)

/-- The operands joined by their operations from the left to the right. -/
def tree (f : α → Tree) (c : OperatorChain α) : Tree :=
  c.rest.foldl (fun l x => .binary l x.1 (f x.2)) (f c.first)

/-- The runs of a chain of an operand and others after it. -/
def runsFrom (first : α) : List (BinaryOp × α) → OperatorChain (OperatorChain α)
  | [] => ⟨⟨first, []⟩, []⟩
  | (op, x) :: rest =>
    let later := runsFrom x rest
    if op = .multiply ∨ op = .divide then ⟨later.first.cons first op, later.rest⟩
    else later.cons ⟨first, []⟩ op

/-- The maximal runs of operands that are joined by multiplications and divisions, with the other
operations between them. -/
def runs (c : OperatorChain α) : OperatorChain (OperatorChain α) :=
  runsFrom c.first c.rest

/-- The operands of the chain are joined by multiplications and divisions. -/
def IsRun (c : OperatorChain α) : Prop :=
  ∀ x ∈ c.rest, x.1 = .multiply ∨ x.1 = .divide

lemma isRun_single (x : α) : (⟨x, []⟩ : OperatorChain α).IsRun := by
  simp [IsRun]

lemma IsRun.cons {c : OperatorChain α} {op : BinaryOp} (x : α) (hc : c.IsRun)
    (hop : op = .multiply ∨ op = .divide) : (c.cons x op).IsRun :=
  List.forall_mem_cons.2 ⟨hop, hc⟩

lemma isRun_runsFrom (first : α) (rest : List (BinaryOp × α)) :
    (runsFrom first rest).first.IsRun ∧
    ∀ x ∈ (runsFrom first rest).rest, (x.1 = .plus ∨ x.1 = .minus) ∧ x.2.IsRun := by
  induction rest generalizing first with
  | nil => exact ⟨isRun_single first, by simp [runsFrom]⟩
  | cons x rest ih =>
    obtain ⟨op, x⟩ := x
    obtain ⟨hfirst, hrest⟩ := ih x
    unfold runsFrom
    by_cases hop : op = .multiply ∨ op = .divide
    · rw [if_pos hop]
      exact ⟨hfirst.cons first hop, hrest⟩
    · rw [if_neg hop]
      have hsum : op = .plus ∨ op = .minus := by cases op <;> simp_all
      exact ⟨isRun_single first, List.forall_mem_cons.2 ⟨⟨hsum, hfirst⟩, hrest⟩⟩

/-- Within the runs there are multiplications and divisions only, and none of them stands between
two runs, so the runs are maximal. -/
theorem isRun_runs (c : OperatorChain α) :
    c.runs.first.IsRun ∧ ∀ x ∈ c.runs.rest, (x.1 = .plus ∨ x.1 = .minus) ∧ x.2.IsRun :=
  isRun_runsFrom c.first c.rest

lemma text_cons (f : α → String) (x : α) (op : BinaryOp) (c : OperatorChain α) :
    (c.cons x op).text f = f x ++ " " ++ op.symbol ++ " " ++ c.text f := by
  simp [cons, text, String.append_assoc]

@[simp] lemma text_single (f : α → String) (x : α) : text f ⟨x, []⟩ = f x := by
  simp [text]

lemma text_runsFrom (f : α → String) (first : α) (rest : List (BinaryOp × α)) :
    (runsFrom first rest).text (text f) = text f ⟨first, rest⟩ := by
  induction rest generalizing first with
  | nil => rw [runsFrom, text_single]
  | cons x rest ih =>
    obtain ⟨op, x⟩ := x
    let later := runsFrom x rest
    have hchain : text f ⟨first, (op, x) :: rest⟩ =
        f first ++ " " ++ op.symbol ++ " " ++ later.text (text f) := by
      rw [ih x]
      exact text_cons f first op ⟨x, rest⟩
    rw [hchain]
    unfold runsFrom
    by_cases hop : op = .multiply ∨ op = .divide
    · rw [if_pos hop]
      -- The run goes on, and what comes after it stays where it is.
      let others := String.join (later.rest.map fun x => " " ++ x.1.symbol ++ " " ++ x.2.text f)
      show (later.first.cons first op).text f ++ others =
        f first ++ " " ++ op.symbol ++ " " ++ (later.first.text f ++ others)
      rw [text_cons, String.append_assoc]
    · rw [if_neg hop, text_cons, text_single]

/-- The runs in a row are the chain. -/
theorem text_runs (f : α → String) (c : OperatorChain α) :
    c.runs.text (text f) = c.text f :=
  text_runsFrom f c.first c.rest

end OperatorChain

/-! ## Reading a chain -/

open Expression

/-- A chain is read from the left to the right, if what was read is a part of the same kind again
after each operation. -/
lemma OperatorChain.written {α : Type} {p q : Part} {f : α → String} {g : α → Tree}
    (c : OperatorChain α) (hfirst : Written p (f c.first).toList (g c.first))
    (hrest : ∀ x ∈ c.rest, Written q (f x.2).toList (g x.2))
    (hstep : ∀ x ∈ c.rest, ∀ cs l cs' r, Written p cs l → Written q cs' r →
      Written p (cs ++ ' ' :: (x.1.symbol.toList ++ ' ' :: cs')) (.binary l x.1 r)) :
    Written p (c.text f).toList (c.tree g) := by
  obtain ⟨first, rest⟩ := c
  -- What was read before grows, so the induction is for any text and tree of it.
  have hfold (s : String) (l : Tree) (hl : Written p s.toList l) :
      Written p (s ++ String.join (rest.map fun x => " " ++ x.1.symbol ++ " " ++ f x.2)).toList
        (rest.foldl (fun l x => .binary l x.1 (g x.2)) l) := by
    clear hfirst
    induction rest generalizing s l with
    | nil => simpa using hl
    | cons x rest ih =>
      rw [List.forall_mem_cons] at hrest hstep
      have hx := hstep.1 _ _ _ _ hl hrest.1
      have hnext := ih hrest.2 hstep.2 (s ++ (" " ++ x.1.symbol ++ " " ++ f x.2)) _
        (by simpa using hx)
      rw [List.map_cons, String.join_cons, List.foldl_cons, ← String.append_assoc]
      exact hnext
  exact hfold _ _ hfirst

/-- Signs before an expression in brackets. -/
structure Operand where
  signs : List UnaryOp
  /-- The text between the brackets. -/
  text : String
  tree : Tree
  /-- The text is an expression with the tree. -/
  parses : parseExpr text = .ok tree

namespace Operand

/-- The operand as it is written. -/
def source (o : Operand) : String :=
  String.join (o.signs.map UnaryOp.symbol) ++ "(" ++ o.text ++ ")"

/-- The tree of the operand, with the last sign innermost. -/
def signed (o : Operand) : Tree :=
  o.signs.foldr .unary o.tree

lemma written (o : Operand) : Written .factor o.source.toList o.signed := by
  obtain ⟨signs, text, e, hparses⟩ := o
  obtain ⟨toks, htoks, hderives⟩ := parseExpr_eq_ok_iff.1 hparses
  have hbracket := written_bracket ⟨toks, htoks.writes, hderives⟩
  induction signs with
  | nil => simpa [source, signed] using hbracket
  | cons op signs ih =>
    simpa [source, signed] using ih.sign op

end Operand

lemma OperatorChain.IsRun.written {run : OperatorChain Operand} (hrun : run.IsRun) :
    Written .term (run.text Operand.source).toList (run.tree Operand.signed) :=
  run.written run.first.written.term (fun x _ => x.2.written)
    fun x hx _ _ _ _ hl hr => .product (hrun x hx) hl hr

/-- **Operators group by precedence and from the left.** A chain of signed operands in brackets is
parsed, whatever expressions stand in the brackets, to the tree that joins first the operands of
each run of multiplications and divisions and then the runs, from the left to the right. Brackets
alone change nothing about a tree.

**Proof sketch.** A run is read as a term, factor by factor, and the runs in a row as an expression,
term by term. The runs in a row are written like the chain. -/
theorem operators_group_by_precedence :
    (∀ c : OperatorChain Operand, parseExpr (c.text Operand.source) =
      .ok (c.runs.tree fun run => run.tree Operand.signed)) ∧
    ∀ text e, parseExpr text = .ok e → parseExpr ("(" ++ text ++ ")") = .ok e := by
  have hchain (c : OperatorChain Operand) : parseExpr (c.text Operand.source) =
      .ok (c.runs.tree fun run => run.tree Operand.signed) := by
    obtain ⟨hfirst, hrest⟩ := c.isRun_runs
    have hwritten : Written .expression (c.runs.text fun run => run.text Operand.source).toList
        (c.runs.tree fun run => run.tree Operand.signed) :=
      c.runs.written hfirst.written.of_term (fun x hx => (hrest x hx).2.written)
        fun x hx _ _ _ _ hl hr => .sum (hrest x hx).1 hl hr
    rw [OperatorChain.text_runs] at hwritten
    obtain ⟨toks, hwrites, hderives⟩ := hwritten
    exact parseExpr_eq_ok_iff.2 ⟨toks, hwrites [] endsWords_nil, hderives⟩
  refine ⟨hchain, fun text e h => ?_⟩
  have hsource : OperatorChain.text Operand.source ⟨⟨[], text, e, h⟩, []⟩ = "(" ++ text ++ ")" := by
    simp [Operand.source]
  rw [← hsource]
  exact hchain ⟨⟨[], text, e, h⟩, []⟩

/-- Signs after operations, a division within a run that is subtracted, and brackets that are not
needed. -/
theorem operators_group_by_precedence_signs :
    parseExpr "1 + 2" = .ok (.binary (.num 1) .plus (.num 2)) ∧ parseExpr " x" = .ok (.var "x") ∧
    parseExpr "10/ 3" = .ok (.binary (.num 10) .divide (.num 3)) ∧
    parseExpr "((4))" = .ok (.num 4) ∧
    parseExpr "-(1 + 2) * +-( x) - (10/ 3) / --(((4))) + (1 + 2)" =
      .ok (.binary
        (.binary
          (.binary (.unary .minus (.binary (.num 1) .plus (.num 2))) .multiply
            (.unary .plus (.unary .minus (.var "x"))))
          .minus
          (.binary (.binary (.num 10) .divide (.num 3)) .divide
            (.unary .minus (.unary .minus (.num 4)))))
        .plus (.binary (.num 1) .plus (.num 2))) := by
  have hsum : parseExpr "1 + 2" = .ok (.binary (.num 1) .plus (.num 2)) := by decide +kernel
  have hvar : parseExpr " x" = .ok (.var "x") := by decide +kernel
  have hratio : parseExpr "10/ 3" = .ok (.binary (.num 10) .divide (.num 3)) := by decide +kernel
  have hnum : parseExpr "((4))" = .ok (.num 4) :=
    operators_group_by_precedence.2 "(4)" _ (by decide +kernel)
  refine ⟨hsum, hvar, hratio, hnum, ?_⟩
  exact operators_group_by_precedence.1 ⟨⟨[.minus], _, _, hsum⟩,
    [(.multiply, ⟨[.plus, .minus], _, _, hvar⟩), (.minus, ⟨[], _, _, hratio⟩),
      (.divide, ⟨[.minus, .minus], _, _, hnum⟩), (.plus, ⟨[], _, _, hsum⟩)]⟩

end BlockLang
