import BlockLang.Evaluation.Run
import Mathlib.Tactic.Common

set_option relaxedAutoImplicit false
set_option autoImplicit false

/-!
# Accesses to variables

An evaluation meets the table of variables only where the tree has a variable, which it reads, or an
assignment, which writes its target. The tree says which accesses these are, and in which order,
before it is evaluated; an evaluation that fails stops somewhere among them.

## Main definitions

* `BlockLang.Access` — a variable is read or written.
* `BlockLang.Tree.accesses` — the accesses of a tree, in the order of evaluation.
* `BlockLang.FollowsAccesses` — a property of evaluations that is told by their accesses.

## Main results

* `BlockLang.FollowsAccesses.eval` — such a property holds of the evaluation of every tree.
-/

namespace BlockLang

/-- A variable is read or written. -/
inductive Access where
  | read (name : String)
  | write (name : String)
deriving DecidableEq, Repr

/-- The variable of an access. -/
def Access.name : Access → String
  | read name => name
  | write name => name

namespace Tree

mutual

/-- The accesses of a tree in the order of evaluation: the left operand comes before the right one,
and an assignment writes its target after the accesses of its expression. -/
def accesses : Tree → List Access
  | num _ => []
  | var name => [.read name]
  | unary _ e => accesses e
  | binary l _ r => accesses l ++ accesses r
  | assign name e => accesses e ++ [.write name]
  | compound children => accessesOf children
  | noop => []

/-- The accesses of trees, one after the other. -/
def accessesOf : List Tree → List Access
  | [] => []
  | child :: children => accesses child ++ accessesOf children

end

lemma accessesOf_append (cs ds : List Tree) :
    accessesOf (cs ++ ds) = accessesOf cs ++ accessesOf ds := by
  induction cs with
  | nil => rfl
  | cons c cs ih => rw [List.cons_append, accessesOf, ih, accessesOf, List.append_assoc]

lemma mem_accessesOf {children : List Tree} {a : Access} :
    a ∈ accessesOf children ↔ ∃ child ∈ children, a ∈ child.accesses := by
  induction children with
  | nil => simp [accessesOf]
  | cons child children ih => simp [accessesOf, ih]

end Tree

/-! ## Properties told by the accesses -/

/-- The property holds of evaluations with certain accesses as soon as it holds of each access by
itself: what comes between the accesses does not matter to it, and it carries over to evaluations
that go on with another one. -/
structure FollowsAccesses (P : List Access → EvalM Int64 → Prop) : Prop where
  /-- A value and the failure of an operation, which is never that of a missing variable. -/
  result : ∀ r, (∀ name, r ≠ .error (.undefinedVariable name)) → P [] (MonadExcept.ofExcept r)
  read : ∀ name, P [.read name] (do MonadExcept.ofExcept ((← get).read name))
  write : ∀ name v, P [.write name] (do modify fun s => s.insert name v; pure v)
  bind : ∀ {as bs m f}, P as m → (∀ v, P bs (f v)) → P (as ++ bs) (m >>= f)

lemma UnaryOp.apply_ne_undefinedVariable (op : UnaryOp) (v : Int64) (name : String) :
    op.apply v ≠ .error (.undefinedVariable name) := by
  unfold apply
  split <;> simp

lemma BinaryOp.apply_ne_undefinedVariable (op : BinaryOp) (v w : Int64) (name : String) :
    op.apply v w ≠ .error (.undefinedVariable name) := by
  unfold apply
  split
  · simp
  · split <;> simp

namespace FollowsAccesses

variable {P : List Access → EvalM Int64 → Prop}

lemma pure (h : FollowsAccesses P) (v : Int64) : P [] (Pure.pure v) :=
  h.result (.ok v) (by simp)

/-- The evaluation of an operand, and then an operation that looks at no variable. -/
lemma bind_result (h : FollowsAccesses P) {as : List Access} {m : EvalM Int64}
    {f : Int64 → Except EvalError Int64} (hm : P as m)
    (hf : ∀ v name, f v ≠ .error (.undefinedVariable name)) :
    P as (m >>= fun v => MonadExcept.ofExcept (f v)) := by
  have hbind := h.bind hm fun v => h.result (f v) (hf v)
  rwa [List.append_nil] at hbind

lemma evalAll (h : FollowsAccesses P) {children : List Tree}
    (hchildren : ∀ child ∈ children, P child.accesses child.eval) (last : Int64) :
    P (Tree.accessesOf children) (Tree.evalAll last children) := by
  induction children generalizing last with
  | nil => exact h.pure last
  | cons child children ih =>
    rw [List.forall_mem_cons] at hchildren
    exact h.bind hchildren.1 fun v => ih hchildren.2 v

/-- A property that is told by the accesses holds of the evaluation of every tree. -/
theorem eval (h : FollowsAccesses P) (t : Tree) : P t.accesses t.eval := by
  induction t using Tree.inductionOn with
  | num v => exact h.pure v
  | var name => exact h.read name
  | unary op e ih => exact h.bind_result ih fun v => op.apply_ne_undefinedVariable v
  | binary l op r ihl ihr =>
    exact h.bind ihl fun v => h.bind_result ihr fun w => op.apply_ne_undefinedVariable v w
  | assign name e ih => exact h.bind ih fun v => h.write name v
  | compound children ih => exact h.evalAll ih 0
  | noop => exact h.pure 0

end FollowsAccesses

end BlockLang
