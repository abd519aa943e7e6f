import BlockLang.Evaluation.Arithmetic
import BlockLang.Tree.Basic
import Std.Data.ExtTreeMap

set_option relaxedAutoImplicit false
set_option autoImplicit false

/-!
# Evaluating trees

A tree is evaluated against a table of variables, from left to right. The first failure ends the
evaluation; what has been assigned until then stays.

## Main definitions

* `BlockLang.Store` — a table of variables.
* `BlockLang.Tree.eval` — the evaluation of a tree.
* `BlockLang.Tree.run` — the value or the failure, and the table afterwards.

## Main results

* `BlockLang.Tree.run_var`, `BlockLang.Tree.run_unary`, `BlockLang.Tree.run_binary`,
  `BlockLang.Tree.run_assign`, `BlockLang.Tree.run_compound` — what each kind of tree does to a
  table.
-/

namespace BlockLang

/-- A table of variables, in the order of their names. -/
abbrev Store := Std.ExtTreeMap String Int64

/-- Evaluations: a value or a failure, and the table afterwards. -/
abbrev EvalM := ExceptT EvalError (StateM Store)

/-- The value of a variable. -/
def Store.read (s : Store) (name : String) : Except EvalError Int64 :=
  match s[name]? with
  | some value => .ok value
  | none => .error (.undefinedVariable name)

namespace Tree

mutual

/-- Evaluates a tree. An assignment has the value it stores, a block that of its last statement; a
block without a statement and the empty statement have the value zero. -/
def eval : Tree → EvalM Int64
  | num value => pure value
  | var name => do MonadExcept.ofExcept ((← get).read name)
  | unary op operand => do MonadExcept.ofExcept (op.apply (← eval operand))
  | binary left op right => do
    let v ← eval left
    let w ← eval right
    MonadExcept.ofExcept (op.apply v w)
  | assign name value => do
    let v ← eval value
    modify fun s => s.insert name v
    pure v
  | compound children => evalAll 0 children
  | noop => pure 0

/-- Evaluates trees one after the other, for the value of the last. -/
def evalAll (last : Int64) : List Tree → EvalM Int64
  | [] => pure last
  | child :: children => do evalAll (← eval child) children

end

/-- The value of a tree or its failure, and the table afterwards. -/
def run (t : Tree) (s : Store) : Except EvalError Int64 × Store :=
  (eval t).run.run s

/-- The same for trees one after the other, for the value of the last. -/
def runAll (last : Int64) (children : List Tree) (s : Store) : Except EvalError Int64 × Store :=
  (evalAll last children).run.run s

/-! ## What each kind of tree does -/

variable (s : Store)

@[simp] theorem run_num (value : Int64) : (num value).run s = (.ok value, s) :=
  rfl

@[simp] theorem run_noop : noop.run s = (.ok 0, s) :=
  rfl

theorem run_ofExcept (r : Except EvalError Int64) :
    (MonadExcept.ofExcept r : EvalM Int64).run.run s = (r, s) := by
  cases r <;> rfl

theorem run_bind (m : EvalM Int64) (f : Int64 → EvalM Int64) :
    (m >>= f).run.run s =
      match m.run.run s with
      | (.ok v, s') => (f v).run.run s'
      | (.error e, s') => (.error e, s') := by
  simp only [ExceptT.run_bind, StateT.run_bind]
  rcases m.run.run s with ⟨_ | _, _⟩ <;> rfl

/-- A variable is looked up. -/
@[simp] theorem run_var (name : String) : (var name).run s = (s.read name, s) :=
  run_ofExcept s (s.read name)

/-- A sign applies to the value of its operand. -/
theorem run_unary (op : UnaryOp) (operand : Tree) :
    (unary op operand).run s =
      match operand.run s with
      | (.ok v, s') => (op.apply v, s')
      | (.error e, s') => (.error e, s') := by
  simp only [run, eval, run_bind, run_ofExcept]
  rfl

/-- An operation applies to the values of its operands, the left one first. -/
theorem run_binary (left : Tree) (op : BinaryOp) (right : Tree) :
    (binary left op right).run s =
      match left.run s with
      | (.ok v, s') =>
        match right.run s' with
        | (.ok w, s'') => (op.apply v w, s'')
        | (.error e, s'') => (.error e, s'')
      | (.error e, s') => (.error e, s') := by
  simp only [run, eval, run_bind, run_ofExcept]
  rfl

/-- An assignment stores the value of its expression. -/
theorem run_assign (name : String) (value : Tree) :
    (assign name value).run s =
      match value.run s with
      | (.ok v, s') => (.ok v, s'.insert name v)
      | (.error e, s') => (.error e, s') := by
  simp only [run, eval, run_bind]
  rfl

/-- A block runs its statements. -/
theorem run_compound (children : List Tree) : (compound children).run s = runAll 0 children s :=
  rfl

@[simp] theorem runAll_nil (last : Int64) : runAll last [] s = (.ok last, s) :=
  rfl

/-- Statements run one after the other, up to the first that fails. -/
theorem runAll_cons (last : Int64) (child : Tree) (children : List Tree) :
    runAll last (child :: children) s =
      match child.run s with
      | (.ok v, s') => runAll v children s'
      | (.error e, s') => (.error e, s') := by
  simp only [run, runAll, evalAll, run_bind]
  rfl

end Tree

end BlockLang
