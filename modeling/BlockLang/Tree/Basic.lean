import BlockLang.Tree.Operator

set_option relaxedAutoImplicit false
set_option autoImplicit false

/-!
# Trees

A tree stands for an expression or for a statement. Nothing keeps the two apart: an assignment has
the value it stores and a block that of its last statement, so a statement may stand where an
expression is wanted.

## Main definitions

* `BlockLang.Tree` — expressions and statements.

## Main results

* `BlockLang.Tree.inductionOn` — induction with the hypothesis for every statement of a block.
* `BlockLang.Tree.same_eq_true_iff` — equality of trees is decidable.
-/

namespace BlockLang

/-- An expression or a statement. -/
inductive Tree where
  /-- An integer. -/
  | num (value : Int64)
  /-- The value of a variable. -/
  | var (name : String)
  /-- A sign and its operand. -/
  | unary (op : UnaryOp) (operand : Tree)
  /-- An operation between two operands. -/
  | binary (left : Tree) (op : BinaryOp) (right : Tree)
  /-- An assignment of a value to a variable. -/
  | assign (name : String) (value : Tree)
  /-- A block of statements. -/
  | compound (children : List Tree)
  /-- The empty statement. -/
  | noop
deriving Repr, Inhabited

namespace Tree

/-! ## Induction -/

/-- Induction on trees: a property holds of a block if it holds of all its statements. -/
theorem inductionOn {motive : Tree → Prop} (t : Tree) (num : ∀ n, motive (num n))
    (var : ∀ x, motive (var x)) (unary : ∀ op e, motive e → motive (unary op e))
    (binary : ∀ l op r, motive l → motive r → motive (binary l op r))
    (assign : ∀ x e, motive e → motive (assign x e))
    (compound : ∀ cs, (∀ c ∈ cs, motive c) → motive (compound cs)) (noop : motive noop) :
    motive t :=
  @Tree.rec motive (fun cs => ∀ c ∈ cs, motive c) num var unary binary assign compound noop
    (fun _ h => by cases h)
    (fun _ _ hc hcs _ h => (List.mem_cons.1 h).elim (fun he => he ▸ hc) (hcs _))
    t

/-! ## Equality -/

mutual

/-- Whether two trees are equal. -/
def same : Tree → Tree → Bool
  | num m, num n => m == n
  | var x, var y => x == y
  | unary o a, unary p b => o == p && same a b
  | binary a o b, binary c p d => same a c && o == p && same b d
  | assign x a, assign y b => x == y && same a b
  | compound as, compound bs => sameAll as bs
  | noop, noop => true
  | _, _ => false

/-- Whether two lists of trees are equal. -/
def sameAll : List Tree → List Tree → Bool
  | [], [] => true
  | a :: as, b :: bs => same a b && sameAll as bs
  | _, _ => false

end

theorem sameAll_eq_true_iff {as bs : List Tree}
    (h : ∀ a ∈ as, ∀ b, same a b = true ↔ a = b) : sameAll as bs = true ↔ as = bs := by
  induction as generalizing bs with
  | nil => cases bs <;> simp [sameAll]
  | cons a as ih =>
    cases bs with
    | nil => simp [sameAll]
    | cons b bs =>
      have hrest : sameAll as bs = true ↔ as = bs :=
        ih fun c hc => h c (List.mem_cons_of_mem a hc)
      simp [sameAll, h a List.mem_cons_self b, hrest]

/-- The comparison of trees decides their equality. -/
theorem same_eq_true_iff (a b : Tree) : same a b = true ↔ a = b := by
  induction a using inductionOn generalizing b with
  | num m => cases b <;> simp [same]
  | var x => cases b <;> simp [same]
  | unary o a iha => cases b <;> simp [same, iha]
  | binary l o r ihl ihr => cases b <;> simp [same, ihl, ihr, and_assoc]
  | assign x a iha => cases b <;> simp [same, iha]
  | compound as ih => cases b <;> simp [same, sameAll_eq_true_iff ih]
  | noop => cases b <;> simp [same]

instance : DecidableEq Tree :=
  fun a b => decidable_of_iff _ (same_eq_true_iff a b)

end Tree

end BlockLang
