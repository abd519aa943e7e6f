import BlockLang.Number.Decimal
import BlockLang.Tree.Operator

set_option relaxedAutoImplicit false
set_option autoImplicit false

/-!
# Checked arithmetic

An operation has an exact value over the integers. It gives that value if it is a 64-bit integer and
fails otherwise, so nothing ever wraps around.

## Main definitions

* `BlockLang.EvalError` — why an evaluation fails.
* `BlockLang.UnaryOp.exact`, `BlockLang.BinaryOp.exact` — the exact values.
* `BlockLang.UnaryOp.apply`, `BlockLang.BinaryOp.apply` — the checked operations.

## Main results

* `BlockLang.UnaryOp.apply_eq_ok_iff`, `BlockLang.BinaryOp.apply_eq_ok_iff` — a checked operation
  gives the exact value, if it gives one.
-/

namespace BlockLang

/-- Why an evaluation fails. -/
inductive EvalError where
  | divisionByZero
  | undefinedVariable (name : String)
  /-- The exact result of an operation is no 64-bit integer. -/
  | overflow (operation : String)
deriving DecidableEq, Repr

/-- The error as its reader sees it. -/
def EvalError.message : EvalError → String
  | divisionByZero => "Division by zero"
  | undefinedVariable name => "Undefined variable: " ++ name
  | overflow operation => "Arithmetic overflow in `" ++ operation ++ "`"

namespace UnaryOp

/-- The exact value of a sign before an operand. -/
def exact : UnaryOp → Int → Int
  | plus, n => n
  | minus, n => -n

/-- A sign before a 64-bit integer, checked. -/
def apply (op : UnaryOp) (v : Int64) : Except EvalError Int64 :=
  match int64? (op.exact v.toInt) with
  | some result => .ok result
  | none => .error (.overflow (op.symbol ++ Decimal.ofInt64 v))

/-- A checked sign gives the exact value, if it gives one. -/
theorem apply_eq_ok_iff {op : UnaryOp} {v result : Int64} :
    op.apply v = .ok result ↔ result.toInt = op.exact v.toInt := by
  rw [← int64?_eq_some_iff, apply]
  split <;> simp_all

end UnaryOp

namespace BinaryOp

/-- The exact value of an operation. Division drops the fraction; there is none by zero. -/
def exact : BinaryOp → Int → Int → Int
  | plus, m, n => m + n
  | minus, m, n => m - n
  | multiply, m, n => m * n
  | divide, m, n => m.tdiv n

/-- An operation between 64-bit integers, checked. -/
def apply (op : BinaryOp) (v w : Int64) : Except EvalError Int64 :=
  if op = divide ∧ w = 0 then
    .error .divisionByZero
  else
    match int64? (op.exact v.toInt w.toInt) with
    | some result => .ok result
    | none => .error (.overflow (Decimal.ofInt64 v ++ " " ++ op.symbol ++ " " ++ Decimal.ofInt64 w))

/-- A checked operation gives the exact value, if it gives one. -/
theorem apply_eq_ok_iff {op : BinaryOp} {v w result : Int64} :
    op.apply v w = .ok result ↔
      ¬ (op = divide ∧ w = 0) ∧ result.toInt = op.exact v.toInt w.toInt := by
  rw [← int64?_eq_some_iff, apply]
  split
  · simp_all
  · split <;> simp_all

end BinaryOp

end BlockLang
