import BlockLang.Proofs.Evaluation.Assignments
import BlockLang.Proofs.Grammar.Piece
import BlockLang.Proofs.Tree.PostfixCode
import Mathlib.Algebra.BigOperators.Group.List.Basic
import Mathlib.Data.List.Forall2

set_option relaxedAutoImplicit false
set_option autoImplicit false

/-!
# What a postfix text tells about its tree

Postfix text needs no brackets, as each word takes a fixed number of values. But the words of the
signs are names too, and a text does not tell a variable of such a name from a sign: `x + -neg` and
`-x + neg` have the same postfix text. Apart from that the text determines the tree, and so does the
text of a program.

The text of an expression is read as code. Two codes with the same words differ only in words of
signs that one of them takes for variables. A variable adds a value where a sign does not, so codes
that leave one value each cannot differ in one direction only.

## Main definitions

* `BlockLang.Instruction.effect` — by how much an instruction changes the number of values.
* `BlockLang.Instruction.Confused` — a variable and a sign with the same word.
* `BlockLang.Tree.MixesSigns` — an expression with signs and with variables called like signs.
* `BlockLang.Tree.IsToldByRpn` — a statement that its postfix text tells.

## Main results

* `BlockLang.Tree.IsArithmetic.eq_of_append_code_eq` — an expression is told by its code.
* `BlockLang.Tree.IsExpression.eq_of_rpn_eq` — expressions that do not mix signs.
* `BlockLang.Tree.IsStatement.isToldByRpn` — statements whose expressions do not.
* `BlockLang.rpn_unambiguous` — the trees of texts that do not mix signs.
* `BlockLang.rpn_ambiguous` — different trees of texts that do, with the same postfix text.
-/

namespace BlockLang

/-! ## Words and effects -/

namespace Instruction

/-- By how much an instruction changes the number of values. -/
def effect : Instruction → Int
  | push _ | load _ => 1
  | unary _ => 0
  | binary _ => -1

/-- The first instruction is a variable that is called like the sign that the other one is. -/
def Confused (i j : Instruction) : Prop :=
  ∃ op : UnaryOp, i = load op.word ∧ j = unary op

variable {i j : Instruction} {is js : List Instruction}

lemma Confused.effect_lt (h : Confused i j) : j.effect < i.effect := by
  obtain ⟨op, rfl, rfl⟩ := h
  exact Int.zero_lt_one

/-- Instructions with the same word are the same, unless a variable is called like a sign. -/
lemma eq_or_confused_of_word_eq (hi : i.IsNamed) (hj : j.IsNamed) (h : i.word = j.word) :
    i = j ∨ Confused i j ∨ Confused j i := by
  rcases ofWord_word_or hi with hi | ⟨op, rfl, hi⟩ <;>
    rcases ofWord_word_or hj with hj | ⟨op', rfl, hj⟩
  · left
    rw [← hi, ← hj, h]
  · right; right
    exact ⟨op', rfl, by rw [← hi, h, hj]⟩
  · right; left
    exact ⟨op, rfl, by rw [← hj, ← h, hi]⟩
  · left
    exact congrArg load h

/-- Codes that differ only in variables where the other has signs leave different numbers of
values. -/
lemma sum_effect_le_and_eq
    (h : List.Forall₂ (fun i j => i = j ∨ Confused i j) is js) :
    (js.map effect).sum ≤ (is.map effect).sum ∧
    ((is.map effect).sum = (js.map effect).sum → is = js) := by
  induction h with
  | nil => simp
  | @cons i j is js hij _ ih =>
    obtain ⟨hle, heq⟩ := ih
    simp only [List.map_cons, List.sum_cons]
    rcases hij with rfl | hij
    · refine ⟨by omega, fun hsum => ?_⟩
      rw [heq (by omega)]
    · have hlt := hij.effect_lt
      exact ⟨by omega, by omega⟩

/-- Codes with the same words that leave the same number of values are the same, if one of them has
no signs or no variables called like signs. -/
theorem eq_of_map_word_eq (his : ∀ i ∈ is, i.IsNamed) (hjs : ∀ j ∈ js, j.IsNamed)
    (hmix : (∀ op, unary op ∉ is) ∨ ∀ op : UnaryOp, load op.word ∉ is)
    (hsum : (is.map effect).sum = (js.map effect).sum)
    (h : is.map word = js.map word) : is = js := by
  have hwords : List.Forall₂ (fun i j => i.word = j.word) is js := by
    rw [← List.forall₂_eq_eq_eq, List.forall₂_map_left_iff, List.forall₂_map_right_iff] at h
    exact h
  obtain ⟨hlength, hzip⟩ := List.forall₂_iff_zip.1 hwords
  have hcases : ∀ i j, (i, j) ∈ is.zip js → i = j ∨ Confused i j ∨ Confused j i := by
    intro i j hij
    obtain ⟨hi, hj⟩ := List.of_mem_zip hij
    exact eq_or_confused_of_word_eq (his i hi) (hjs j hj) (hzip hij)
  rcases hmix with hunary | hload
  · refine (sum_effect_le_and_eq (List.forall₂_iff_zip.2 ⟨hlength, fun {i j} hij => ?_⟩)).2 hsum
    rcases hcases i j hij with heq | hconf | ⟨op, -, rfl⟩
    · exact Or.inl heq
    · exact Or.inr hconf
    · exact absurd (List.of_mem_zip hij).1 (hunary op)
  · refine ((sum_effect_le_and_eq (List.Forall₂.flip
      (List.forall₂_iff_zip.2 ⟨hlength, fun {i j} hij => ?_⟩))).2 hsum.symm).symm
    rcases hcases i j hij with heq | ⟨op, rfl, -⟩ | hconf
    · exact Or.inl heq.symm
    · exact absurd (List.of_mem_zip hij).1 (hload op)
    · exact Or.inr hconf

end Instruction

namespace Tree

/-! ## Expressions -/

variable {a b t e : Tree}

/-- The code of an expression leaves one value. -/
lemma IsArithmetic.sum_effect_code (h : t.IsArithmetic) :
    (t.code.map Instruction.effect).sum = 1 := by
  induction h with
  | num | var => rfl
  | unary _ ih => simp [code, ih, Instruction.effect]
  | binary _ _ ihl ihr => simp [code, ihl, ihr, Instruction.effect]

/-- An expression is told by its code, wherever that begins.

**Proof sketch.** Induction on the expression. The last instruction is that of the root, and before
it ends the code of the last operand. -/
theorem IsArithmetic.eq_of_append_code_eq (ha : a.IsArithmetic) (hb : b.IsArithmetic)
    {is js : List Instruction} (h : is ++ a.code = js ++ b.code) : is = js ∧ a = b := by
  induction ha generalizing b is js with
  | num v | var x => cases hb <;> simp_all [code, ← List.append_assoc]
  | unary he ih =>
    cases hb with
    | unary he' =>
      simp only [code, ← List.append_assoc] at h
      obtain ⟨hcode, hroot⟩ := List.append_inj' h rfl
      obtain ⟨rfl, rfl⟩ := ih he' hcode
      obtain rfl := Instruction.unary.inj (List.singleton_inj.1 hroot)
      exact ⟨rfl, rfl⟩
    | _ => simp [code, ← List.append_assoc] at h
  | binary hl hr ihl ihr =>
    cases hb with
    | binary hl' hr' =>
      simp only [code, ← List.append_assoc] at h
      obtain ⟨hcode, hroot⟩ := List.append_inj' h rfl
      obtain ⟨hleft, rfl⟩ := ihr hr' hcode
      obtain ⟨rfl, rfl⟩ := ihl hl' hleft
      obtain rfl := Instruction.binary.inj (List.singleton_inj.1 hroot)
      exact ⟨rfl, rfl⟩
    | _ => simp [code, ← List.append_assoc] at h

/-- The expression has a sign, and a variable that is called like one. -/
def MixesSigns (e : Tree) : Prop :=
  (∃ op operand, unary op operand ∈ e.nodes) ∧ ∃ op : UnaryOp, var op.word ∈ e.nodes

lemma IsExpression.isName_of_mem_nodes (h : e.IsExpression) :
    ∀ name, Tree.var name ∈ e.nodes → IsName name := by
  induction h with
  | num => simp [nodes]
  | var hname => simpa [nodes] using hname
  | unary _ ih => simpa [nodes] using ih
  | binary _ _ ihl ihr =>
    intro name hname
    simp only [nodes, List.mem_append, List.mem_singleton, reduceCtorEq, or_false] at hname
    exact hname.elim (ihl name) (ihr name)

/-- Expressions with the same postfix text are the same, if one of them does not mix signs. -/
theorem IsExpression.eq_of_rpn_eq (ha : a.IsExpression) (hb : b.IsExpression)
    (hmix : ¬ a.MixesSigns) (h : a.rpn = b.rpn) : a = b := by
  have hcode : a.code = b.code := by
    refine Instruction.eq_of_map_word_eq (isNamed_of_mem_code ha.isName_of_mem_nodes)
      (isNamed_of_mem_code hb.isName_of_mem_nodes) ?_ ?_ ?_
    · simp only [load_mem_code, unary_mem_code]
      by_contra hboth
      exact hmix (by simpa [MixesSigns] using hboth)
    · rw [ha.isArithmetic.sum_effect_code, hb.isArithmetic.sum_effect_code]
    · rw [← words_rpn ha.isArithmetic ha.isName_of_mem_nodes, h,
        words_rpn hb.isArithmetic hb.isName_of_mem_nodes]
  have happend : [] ++ a.code = [] ++ b.code := by rw [hcode]
  exact (ha.isArithmetic.eq_of_append_code_eq hb.isArithmetic happend).2

/-! ## Statements -/

/-- The word that the postfix text of a statement begins with; there is none for the empty
statement. -/
def firstWord : Tree → List Char
  | assign name _ => name.toList
  | compound _ => ['b', 'e', 'g', 'i', 'n']
  | _ => []

/-- What stands in the postfix text of a block after one of its statements: the other statements,
the end of the block, and what comes later. -/
def restOfBlock : List Tree → List Char → List Char
  | [], r => [' ', 'e', 'n', 'd'] ++ r
  | c :: cs, r => [';', ' '] ++ (c.rpn.toList ++ restOfBlock cs r)

lemma rpn_assign_append (name : String) (e : Tree) (r : List Char) :
    (assign name e).rpn.toList ++ r =
      name.toList ++ ' ' :: ((e.rpn.toList ++ [' ']) ++ ':' :: '=' :: r) := by
  simp [rpn]

lemma rpn_compound_append (c : Tree) (cs : List Tree) (r : List Char) :
    (compound (c :: cs)).rpn.toList ++ r =
      ['b', 'e', 'g', 'i', 'n'] ++ ' ' :: (c.rpn.toList ++ restOfBlock cs r) := by
  have hbody : (String.intercalate "; " ((c :: cs).map rpn)).toList ++ ([' ', 'e', 'n', 'd'] ++ r) =
      c.rpn.toList ++ restOfBlock cs r := by
    induction cs generalizing c with
    | nil => rw [List.map_singleton, String.intercalate_singleton, restOfBlock]
    | cons d ds ih =>
      have hd := ih d
      rw [List.map_cons] at hd ⊢
      rw [List.map_cons, String.intercalate_cons_cons, restOfBlock, ← hd]
      simp
  rw [← hbody]
  simp [rpn, rpns_eq_map]

lemma endsWords_restOfBlock (cs : List Tree) (r : List Char) : EndsWords (restOfBlock cs r) := by
  cases cs with
  | nil => exact endsWords_cons _ (by decide)
  | cons c cs => exact endsWords_cons _ (by decide)

/-- The postfix text of a statement begins with its first word, wherever words end after it. -/
lemma IsStatement.takeWhile_rpn (h : t.IsStatement) {r : List Char} (hr : EndsWords r) :
    (t.rpn.toList ++ r).takeWhile isWordChar = t.firstWord := by
  have hspace (cs : List Char) : ∀ c ∈ (' ' :: cs).head?, isWordChar c = false :=
    endsWords_cons cs (by decide)
  cases h with
  | noop =>
    have hnil : Tree.noop.rpn.toList = [] := rfl
    rw [hnil]
    exact (Lexeme.takeWhile_append_of_head? (by simp) hr).1
  | @assign name e hname _ _ _ =>
    obtain ⟨c, cs, hcs, hletter, hword⟩ := hname
    rw [rpn_assign_append]
    refine (Lexeme.takeWhile_append_of_head? ?_ (hspace _)).1
    rw [hcs]
    exact List.forall_mem_cons.2 ⟨isWordChar_of_isLetter hletter, hword⟩
  | @compound children hne _ =>
    obtain ⟨c, cs, rfl⟩ := List.exists_cons_of_ne_nil hne
    rw [rpn_compound_append]
    exact (Lexeme.takeWhile_append_of_head? (by simp [isWordChar_eq_isAlphanum_or]) (hspace _)).1

/-- Statements whose postfix texts agree, with what follows them, begin with the same word. -/
lemma IsStatement.firstWord_eq (ha : a.IsStatement) (hb : b.IsStatement) {r r' : List Char}
    (hr : EndsWords r) (hr' : EndsWords r') (h : a.rpn.toList ++ r = b.rpn.toList ++ r') :
    b.firstWord = a.firstWord := by
  rw [← hb.takeWhile_rpn hr', ← h, ha.takeWhile_rpn hr]

/-- The postfix text of the statement tells it from all other statements, and where its own text
ends. -/
def IsToldByRpn (a : Tree) : Prop :=
  ∀ (b : Tree) (r r' : List Char), b.IsStatement → EndsWords r → EndsWords r' →
    a.rpn.toList ++ r = b.rpn.toList ++ r' → a = b ∧ r = r'

/-- No postfix text of an expression holds the colon that is written after it. -/
lemma IsExpression.colon_notMem_rpn (h : e.IsExpression) : ':' ∉ e.rpn.toList := by
  induction h with
  | num =>
    intro hmem
    simpa [isPostfixChar_eq_false] using isPostfixChar_of_mem_ofInt64 _ _ hmem
  | var hname =>
    intro hmem
    simpa [isPostfixChar_eq_false] using hname.isPostfixChar _ hmem
  | @unary op _ _ ih => cases op <;> simpa [rpn, UnaryOp.word] using ih
  | @binary op _ _ _ _ ihl ihr => cases op <;> simpa [rpn, BinaryOp.symbol] using ⟨ihl, ihr⟩

/-- The expression of an assignment ends before the first colon. -/
lemma IsExpression.rpn_append_colon_inj (ha : a.IsExpression) (hb : b.IsExpression)
    {r r' : List Char}
    (h : (a.rpn.toList ++ [' ']) ++ ':' :: r = (b.rpn.toList ++ [' ']) ++ ':' :: r') :
    a.rpn = b.rpn ∧ r = r' := by
  have hbefore {e : Tree} (he : e.IsExpression) :
      ∀ c ∈ e.rpn.toList ++ [' '], (c != ':') = true := by
    intro c hc
    rw [bne_iff_ne]
    rintro rfl
    simp [he.colon_notMem_rpn] at hc
  obtain ⟨hrpn, hrest⟩ :=
    Lexeme.append_inj_of_head? (hbefore ha) (hbefore hb) (by simp) (by simp) h
  exact ⟨String.toList_inj.1 (List.append_cancel_right hrpn), (List.cons.inj hrest).2⟩

lemma isToldByRpn_noop : noop.IsToldByRpn := by
  intro b r r' hb hr hr' h
  have hword : b.firstWord = [] := IsStatement.noop.firstWord_eq hb hr hr' h
  cases hb with
  | noop => exact ⟨rfl, h⟩
  | assign hname _ _ _ => exact absurd hword hname.toList_ne_nil
  | compound _ _ => cases hword

/-- No target of an assignment is the word that a block begins with. -/
lemma toList_ne_begin {name : String}
    (hbegin : Token.foldCase name ≠ Token.foldCase "BEGIN") :
    name.toList ≠ ['b', 'e', 'g', 'i', 'n'] := by
  intro h
  refine hbegin ?_
  rw [Token.foldCase, Token.foldCase, h]
  simp

lemma isToldByRpn_assign {name : String} (hname : IsName name)
    (hbegin : Token.foldCase name ≠ Token.foldCase "BEGIN")
    (hend : Token.foldCase name ≠ Token.foldCase "END") (he : e.IsExpression)
    (hmix : ¬ e.MixesSigns) : (assign name e).IsToldByRpn := by
  intro b r r' hb hr hr' h
  have hword : b.firstWord = name.toList :=
    (IsStatement.assign hname hbegin hend he).firstWord_eq hb hr hr' h
  cases hb with
  | noop => exact absurd hword.symm hname.toList_ne_nil
  | compound _ _ => exact absurd hword.symm (toList_ne_begin hbegin)
  | @assign name' e' _ _ _ he' =>
    obtain rfl : name' = name := String.toList_inj.1 hword
    rw [rpn_assign_append, rpn_assign_append] at h
    have hvalue := (List.cons.inj (List.append_cancel_left h)).2
    obtain ⟨hrpn, hrest⟩ := he.rpn_append_colon_inj he' hvalue
    obtain rfl := he.eq_of_rpn_eq he' hmix hrpn
    exact ⟨rfl, (List.cons.inj hrest).2⟩

lemma restOfBlock_inj {cs ds : List Tree} {r r' : List Char} (hcs : ∀ c ∈ cs, c.IsToldByRpn)
    (hds : ∀ d ∈ ds, d.IsStatement) (h : restOfBlock cs r = restOfBlock ds r') :
    cs = ds ∧ r = r' := by
  induction cs generalizing ds with
  | nil =>
    cases ds with
    | nil => exact ⟨rfl, List.append_cancel_left h⟩
    | cons d ds => simp [restOfBlock] at h
  | cons c cs ih =>
    cases ds with
    | nil => simp [restOfBlock] at h
    | cons d ds =>
      rw [List.forall_mem_cons] at hcs hds
      have hafter := List.append_cancel_left h
      obtain ⟨rfl, hrest⟩ := hcs.1 d _ _ hds.1 (endsWords_restOfBlock cs r)
        (endsWords_restOfBlock ds r') hafter
      obtain ⟨rfl, rfl⟩ := ih hcs.2 hds.2 hrest
      exact ⟨rfl, rfl⟩

lemma isToldByRpn_compound {children : List Tree} (hne : children ≠ [])
    (hchildren : ∀ c ∈ children, c.IsStatement) (h : ∀ c ∈ children, c.IsToldByRpn) :
    (compound children).IsToldByRpn := by
  intro b r r' hb hr hr' htext
  have hword := (IsStatement.compound hne hchildren).firstWord_eq hb hr hr' htext
  cases hb with
  | noop => cases hword
  | assign _ hbegin _ _ => exact absurd hword (toList_ne_begin hbegin)
  | @compound children' hne' hchildren' =>
    obtain ⟨c, cs, rfl⟩ := List.exists_cons_of_ne_nil hne
    obtain ⟨d, ds, rfl⟩ := List.exists_cons_of_ne_nil hne'
    rw [rpn_compound_append, rpn_compound_append] at htext
    rw [List.forall_mem_cons] at h hchildren'
    have hbody := (List.cons.inj (List.append_cancel_left htext)).2
    obtain ⟨rfl, hrest⟩ := h.1 d _ _ hchildren'.1 (endsWords_restOfBlock cs r)
      (endsWords_restOfBlock ds r') hbody
    obtain ⟨rfl, rfl⟩ := restOfBlock_inj h.2 hchildren'.2 hrest
    exact ⟨rfl, rfl⟩

/-- A statement is told by its postfix text if no expression in it mixes signs.

**Proof sketch.** Induction on the statement. The first word tells the kind of the statement. An
assignment goes on with its expression up to the colon, and a block with its statements, each up to
the semicolon or the end after it. -/
theorem IsStatement.isToldByRpn (h : t.IsStatement)
    (hmix : ∀ x ∈ t.assignments, ¬ x.value.MixesSigns) : t.IsToldByRpn := by
  induction h with
  | noop => exact isToldByRpn_noop
  | assign hname hbegin hend he =>
    exact isToldByRpn_assign hname hbegin hend he (by simpa [assignments] using hmix)
  | compound hne hchildren ih =>
    refine isToldByRpn_compound hne hchildren fun c hc => ih c hc fun x hx => hmix x ?_
    rw [assignments, mem_assignmentsOf]
    exact ⟨c, hc, hx⟩

end Tree

/-- **Postfix text is unambiguous without signs as names.** An expression that does not have both a
sign and a variable called `pos` or `neg` is the only tree of an expression with its postfix text,
and a program in which no expression has both is the only tree of a program with its. -/
theorem rpn_unambiguous :
    (∀ text text' a b, parseExpr text = .ok a → parseExpr text' = .ok b → ¬ a.MixesSigns →
      a.rpn = b.rpn → a = b) ∧
    ∀ text text' a b, parse text = .ok a → parse text' = .ok b →
      (∀ x ∈ a.assignments, ¬ x.value.MixesSigns) → a.rpn = b.rpn → a = b := by
  constructor
  · intro text text' a b ha hb hmix h
    exact (isExpression_of_parseExpr ha).eq_of_rpn_eq (isExpression_of_parseExpr hb) hmix h
  · intro text text' a b ha hb hmix h
    exact ((isStatement_of_parse ha).1.isToldByRpn hmix b [] [] (isStatement_of_parse hb).1
      endsWords_nil endsWords_nil (by rw [h])).1

/-- Variables called like signs do no harm in an expression without signs, and neither does a sign
in the expression that is assigned to one of them. -/
theorem rpn_unambiguous_assignment_to_neg :
    (∃ a b, parseExpr "neg * 2 - pos" = .ok a ∧ parseExpr "((neg*2) - pos)" = .ok b ∧
      ¬ a.MixesSigns ∧ a.rpn = b.rpn ∧ a = b) ∧
    ∃ a b, parse "BEGIN neg := -x; y := neg END." = .ok a ∧
      parse "begin neg:=(-x);y:=neg end." = .ok b ∧
      (∀ x ∈ a.assignments, ¬ x.value.MixesSigns) ∧ a.rpn = b.rpn ∧ a = b := by
  let e : Tree := .binary (.binary (.var "neg") .multiply (.num 2)) .minus (.var "pos")
  let t : Tree := .compound [.assign "neg" (.unary .minus (.var "x")), .assign "y" (.var "neg")]
  have hexpr : parseExpr "neg * 2 - pos" = .ok e ∧ parseExpr "((neg*2) - pos)" = .ok e := by
    decide +kernel
  have hprogram : parse "BEGIN neg := -x; y := neg END." = .ok t ∧
      parse "begin neg:=(-x);y:=neg end." = .ok t := by
    decide +kernel
  have he : ¬ e.MixesSigns := by simp [e, Tree.MixesSigns, Tree.nodes]
  have hx (op : UnaryOp) : op.word ≠ "x" := by cases op <;> decide
  have ht : ∀ x ∈ t.assignments, ¬ x.value.MixesSigns := by
    simp [t, Tree.assignments, Tree.assignmentsOf, Tree.MixesSigns, Tree.nodes, hx]
  exact ⟨⟨e, e, hexpr.1, hexpr.2, he, rfl,
      rpn_unambiguous.1 _ _ e e hexpr.1 hexpr.2 he rfl⟩,
    ⟨t, t, hprogram.1, hprogram.2, ht, rfl,
      rpn_unambiguous.2 _ _ t t hprogram.1 hprogram.2 ht rfl⟩⟩

/-- **Postfix text is ambiguous.** In `x neg neg +` the first `neg` is a variable and the second its
sign, or the first is the sign of `x` and the second a variable. -/
theorem rpn_ambiguous :
    (∃ a b, parseExpr "x + -neg" = .ok a ∧ parseExpr "-x + neg" = .ok b ∧
      a.rpn = b.rpn ∧ a ≠ b) ∧
    ∃ a b, parse "BEGIN y := x + -neg END." = .ok a ∧ parse "BEGIN y := -x + neg END." = .ok b ∧
      a.rpn = b.rpn ∧ a ≠ b := by
  have hexpr : parseExpr "x + -neg" = .ok (.binary (.var "x") .plus (.unary .minus (.var "neg"))) ∧
      parseExpr "-x + neg" = .ok (.binary (.unary .minus (.var "x")) .plus (.var "neg")) := by
    decide +kernel
  have hprogram : parse "BEGIN y := x + -neg END." =
        .ok (.compound [.assign "y" (.binary (.var "x") .plus (.unary .minus (.var "neg")))]) ∧
      parse "BEGIN y := -x + neg END." =
        .ok (.compound [.assign "y" (.binary (.unary .minus (.var "x")) .plus (.var "neg"))]) := by
    decide +kernel
  exact ⟨⟨_, _, hexpr.1, hexpr.2, by simp [Tree.rpn, UnaryOp.word], by decide⟩,
    ⟨_, _, hprogram.1, hprogram.2, by simp [Tree.rpn, Tree.rpns, UnaryOp.word], by decide⟩⟩

end BlockLang
