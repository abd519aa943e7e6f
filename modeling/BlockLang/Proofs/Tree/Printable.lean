import BlockLang.Proofs.Grammar.Acceptance

set_option relaxedAutoImplicit false
set_option autoImplicit false

/-!
# Trees that a text can have

Trees can be built in any way, but parsing makes only some of them. It makes no negative integer,
no name that is not a word, no block without statements, and it keeps expressions and statements
apart.

## Main definitions

* `BlockLang.IsName` — the text is a word that is a name.
* `BlockLang.Tree.IsExpression`, `BlockLang.Tree.IsStatement` — the trees that parsing makes.

## Main results

* `BlockLang.isExpression_of_parseExpr` — what an expression is parsed to.
* `BlockLang.isStatement_of_parse` — what a program is parsed to.
-/

namespace BlockLang

/-- The text is a word that is a name: a letter, and then word characters. -/
def IsName (name : String) : Prop :=
  ∃ c cs, name.toList = c :: cs ∧ isLetter c = true ∧ ∀ d ∈ cs, isWordChar d = true

lemma IsName.toList_ne_nil {name : String} (h : IsName name) : name.toList ≠ [] := by
  obtain ⟨c, cs, hcs, -⟩ := h
  rw [hcs]
  exact List.cons_ne_nil c cs

namespace Tree

/-- Trees of expressions: integers are not negative, and names are words other than the keyword
`END`, however that is spelt. -/
inductive IsExpression : Tree → Prop where
  | num {v : Int64} (hv : 0 ≤ v.toInt) : IsExpression (num v)
  | var {name : String} (hname : IsName name)
      (hend : Token.foldCase name ≠ Token.foldCase "END") : IsExpression (var name)
  | unary {op : UnaryOp} {e : Tree} (he : IsExpression e) : IsExpression (unary op e)
  | binary {op : BinaryOp} {l r : Tree} (hl : IsExpression l) (hr : IsExpression r) :
      IsExpression (binary l op r)

/-- Trees of statements: names to assign to are words other than the keywords, and each block has a
statement, if only the empty one. -/
inductive IsStatement : Tree → Prop where
  | noop : IsStatement noop
  | assign {name : String} {e : Tree} (hname : IsName name)
      (hbegin : Token.foldCase name ≠ Token.foldCase "BEGIN")
      (hend : Token.foldCase name ≠ Token.foldCase "END") (he : IsExpression e) :
      IsStatement (assign name e)
  | compound {children : List Tree} (hne : children ≠ [])
      (h : ∀ child ∈ children, IsStatement child) : IsStatement (compound children)

end Tree

/-- A token of a text is spelt as its kind says. -/
def Token.Spelt (t : Token) : Prop :=
  t.kind.Spells t.text.toList

lemma Wording.spelt {rest cs : List Char} {toks : List Token} (h : Wording rest cs toks) :
    ∀ t ∈ toks, t.Spelt := by
  induction h with
  | blanks => simp
  | word _ hspells _ _ ih =>
    refine List.forall_mem_cons.2 ⟨?_, ih⟩
    simpa [Token.Spelt] using hspells

lemma Token.Spelt.isName {t : Token} (h : t.Spelt) (hkind : t.kind = .identifier) :
    IsName t.text := by
  rwa [Token.Spelt, hkind] at h

lemma Token.foldCase_ne {t : Token} {keyword : String} (hkind : t.kind = .identifier)
    (h : t.isKeyword keyword = false) : Token.foldCase t.text ≠ Token.foldCase keyword := by
  simpa [Token.isKeyword, hkind] using h

/-- The tree of an expression of a text. -/
theorem Expression.Derives.isExpression {p : Part} {ts : List Token} {e : Tree}
    (h : Derives p ts e) (hts : ∀ t ∈ ts, t.Spelt) : e.IsExpression := by
  induction h with
  | sign _ _ ih => exact .unary (ih fun t ht => hts t (by simp [ht]))
  | integer _ hv => exact .num (by omega)
  | bracket _ _ _ ih => exact ih fun t ht => hts t (by simp [ht])
  | name hkind hend =>
    exact .var ((hts _ List.mem_cons_self).isName hkind) (Token.foldCase_ne hkind hend)
  | factor _ ih => exact ih hts
  | term _ ih => exact ih hts
  | product _ _ _ _ ihl ihr | sum _ _ _ _ ihl ihr =>
    exact .binary (ihl fun t ht => hts t (by simp [ht])) (ihr fun t ht => hts t (by simp [ht]))

namespace Program

/-- The tree of a statement of a text, and of each part of a program. -/
theorem Derives.isStatement {p : Part} {ts : List Token} {t : Tree} (h : Derives p ts t)
    (hts : ∀ t ∈ ts, t.Spelt) : t.IsStatement := by
  induction h with
  | empty => exact .noop
  | assignment hkind hbegin hend _ he =>
    refine .assign ((hts _ List.mem_cons_self).isName hkind) (Token.foldCase_ne hkind hbegin)
      (Token.foldCase_ne hkind hend) (he.isExpression fun t ht => hts t (by simp [ht]))
  | nested _ ih => exact ih hts
  | first _ ih => exact .compound (by simp) (by simpa using ih hts)
  | next _ _ _ ihcs ih =>
    have hnext := ih fun t ht => hts t (by simp [ht])
    cases ihcs fun t ht => hts t (by simp [ht]) with
    | compound hne hcs =>
      refine .compound (by simp) (List.forall_mem_append.2 ⟨hcs, ?_⟩)
      simpa using hnext
  | block _ _ _ ih => exact ih fun t ht => hts t (by simp [ht])
  | program _ _ ih => exact ih fun t ht => hts t (by simp [ht])

/-- A part of a program that is not just a statement is a block. -/
lemma Derives.exists_compound {p : Part} {ts : List Token} {t : Tree} (h : Derives p ts t)
    (hp : p ≠ .statement) : ∃ children, t = .compound children := by
  induction h with
  | empty | assignment | nested => exact absurd rfl hp
  | first | next => exact ⟨_, rfl⟩
  | block _ _ _ ih => exact ih (by simp)
  | program _ _ ih => exact ih (by simp)

end Program

variable {text : String} {t : Tree}

/-- An expression is parsed to the tree of an expression. -/
theorem isExpression_of_parseExpr (h : parseExpr text = .ok t) : t.IsExpression := by
  obtain ⟨toks, htoks, hderives⟩ := parseExpr_eq_ok_iff.1 h
  exact hderives.isExpression htoks.spelt

/-- A program is parsed to a block that is the tree of a statement. -/
theorem isStatement_of_parse (h : parse text = .ok t) :
    t.IsStatement ∧ ∃ children, t = .compound children := by
  obtain ⟨toks, htoks, hderives⟩ := parse_eq_ok_iff.1 h
  exact ⟨hderives.isStatement htoks.spelt, hderives.exists_compound (by simp)⟩

end BlockLang
