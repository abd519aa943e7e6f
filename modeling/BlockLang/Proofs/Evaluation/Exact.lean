import BlockLang.Evaluation.Run
import Mathlib.Algebra.Ring.Int.Defs
import Mathlib.Tactic.Common

set_option relaxedAutoImplicit false
set_option autoImplicit false

/-!
# Arithmetic is exact

A tree made of integers, variables and operations has an exact value over the integers, and each of
its nodes has one. Evaluation gives the exact value if all of these values are 64-bit integers. If
not, it stops at the first node, in the order of evaluation, that has no such value, so an
intermediate result that is too large is never made good by a later operation.

## Main definitions

* `BlockLang.Tree.IsArithmetic` — the trees in question.
* `BlockLang.Tree.nodes` — the nodes of a tree, in the order of evaluation.
* `BlockLang.Tree.exactValue?` — the exact value of a tree.
* `BlockLang.Tree.failure?` — why a node has no 64-bit value although its operands have one.
* `BlockLang.Tree.InRange` — all values that are met are 64-bit integers.
* `BlockLang.Tree.Accounts` — a result is told by an exact value and a failure.

## Main results

* `BlockLang.Tree.IsArithmetic.run_snd` — an arithmetic tree leaves the table alone.
* `BlockLang.Tree.findSome?_failure?_eq_none_iff` — when no node fails.
* `BlockLang.Tree.arithmetic_exact` — the value and the failure of an arithmetic tree.
-/

namespace BlockLang

/-- The integer is in the range of 64-bit signed integers. -/
def FitsInt64 (n : Int) : Prop :=
  -2 ^ 63 ≤ n ∧ n ≤ 2 ^ 63 - 1

instance (n : Int) : Decidable (FitsInt64 n) :=
  inferInstanceAs (Decidable (_ ∧ _))

lemma fitsInt64_toInt (v : Int64) : FitsInt64 v.toInt :=
  ⟨Int64.minValue_le_toInt v, Int64.toInt_le v⟩

lemma int64?_eq_none_iff_not_fits {n : Int} : int64? n = none ↔ ¬ FitsInt64 n := by
  have hmin : Int64.minValue.toInt = -2 ^ 63 := by decide
  have hmax : Int64.maxValue.toInt = 2 ^ 63 - 1 := by decide
  rw [int64?_eq_none_iff, hmin, hmax, FitsInt64]
  omega

namespace UnaryOp

/-- A checked sign fails exactly if the exact value is out of range. -/
lemma apply_eq_error_iff {op : UnaryOp} {v : Int64} {err : EvalError} :
    op.apply v = .error err ↔ ¬ FitsInt64 (op.exact v.toInt) ∧
      err = .overflow (op.symbol ++ Decimal.ofInt v.toInt) := by
  rw [← int64?_eq_none_iff_not_fits, apply, Decimal.ofInt64]
  cases int64? (op.exact v.toInt) <;> simp [eq_comm]

end UnaryOp

namespace BinaryOp

/-- A checked operation fails exactly if it divides by zero or the exact value is out of range. -/
lemma apply_eq_error_iff {op : BinaryOp} {v w : Int64} {err : EvalError} :
    op.apply v w = .error err ↔
      if op = divide ∧ w.toInt = 0 then err = .divisionByZero
      else ¬ FitsInt64 (op.exact v.toInt w.toInt) ∧
        err = .overflow
          (Decimal.ofInt v.toInt ++ " " ++ op.symbol ++ " " ++ Decimal.ofInt w.toInt) := by
  have hzero : w = 0 ↔ w.toInt = 0 := by rw [← Int64.toInt_inj, Int64.toInt_zero]
  simp only [← int64?_eq_none_iff_not_fits, apply, Decimal.ofInt64, hzero]
  split
  · simp [eq_comm]
  · cases int64? (op.exact v.toInt w.toInt) <;> simp [eq_comm]

end BinaryOp

namespace Tree

/-! ## Nodes and exact values -/

/-- Trees made of integers, variables and operations. -/
inductive IsArithmetic : Tree → Prop where
  | num (v : Int64) : IsArithmetic (num v)
  | var (name : String) : IsArithmetic (var name)
  | unary {op : UnaryOp} {e : Tree} (he : IsArithmetic e) : IsArithmetic (unary op e)
  | binary {op : BinaryOp} {l r : Tree} (hl : IsArithmetic l) (hr : IsArithmetic r) :
      IsArithmetic (binary l op r)

/-- The nodes of an arithmetic tree in the order of evaluation: those of the left operand, those of
the right operand, and then the operation itself. -/
def nodes : Tree → List Tree
  | unary op e => nodes e ++ [unary op e]
  | binary l op r => nodes l ++ (nodes r ++ [binary l op r])
  | t => [t]

/-- The exact value of an arithmetic tree over the integers. There is none if a variable is missing
from the table or something is divided by zero. -/
def exactValue? (s : Store) : Tree → Option Int
  | num v => some v.toInt
  | var name => s[name]?.map Int64.toInt
  | unary op e => (exactValue? s e).map op.exact
  | binary l op r => do
    let m ← exactValue? s l
    let n ← exactValue? s r
    if op = .divide ∧ n = 0 then none else some (op.exact m n)
  | assign _ _ | compound _ | noop => none

/-- Why a node itself fails once its operands have their exact values. -/
def failure? (s : Store) : Tree → Option EvalError
  | var name => if s[name]?.isSome then none else some (.undefinedVariable name)
  | unary .minus e => do
    let n ← e.exactValue? s
    if FitsInt64 (-n) then none else some (.overflow ("-" ++ Decimal.ofInt n))
  | binary l op r => do
    let m ← l.exactValue? s
    let n ← r.exactValue? s
    if op = .divide ∧ n = 0 then some .divisionByZero
    else if FitsInt64 (op.exact m n) then none
    else some (.overflow (Decimal.ofInt m ++ " " ++ op.symbol ++ " " ++ Decimal.ofInt n))
  | _ => none

/-- Every variable has a value, no divisor is zero, and the exact values of all nodes are in the
range of 64-bit integers. -/
structure InRange (s : Store) (t : Tree) : Prop where
  bound : ∀ name, var name ∈ t.nodes → s[name]?.isSome
  divisor : ∀ l r, binary l .divide r ∈ t.nodes → r.exactValue? s ≠ some 0
  fits : ∀ u ∈ t.nodes, ∀ n, u.exactValue? s = some n → FitsInt64 n

/-- An exact value and a failure account for the result of a checked evaluation: either there is no
failure and the result is the exact value, or the result is the failure. -/
inductive Accounts (value? : Option Int) (failure? : Option EvalError) :
    Except EvalError Int64 → Prop where
  | ok {v : Int64} (hvalue : value? = some v.toInt) (hfailure : failure? = none) :
      Accounts value? failure? (.ok v)
  | error {err : EvalError} (hfailure : failure? = some err) : Accounts value? failure? (.error err)

variable {s : Store} {t e l r u : Tree}

/-! ## Single nodes -/

lemma accounts_var (name : String) :
    Accounts ((var name).exactValue? s) ((var name).failure? s) (s.read name) := by
  rw [Store.read, exactValue?, failure?]
  cases s[name]? with
  | none => exact .error rfl
  | some v => exact .ok rfl rfl

lemma accounts_unary (op : UnaryOp) {v : Int64} (he : e.exactValue? s = some v.toInt) :
    Accounts ((unary op e).exactValue? s) ((unary op e).failure? s) (op.apply v) := by
  rcases happly : op.apply v with err | x
  · obtain ⟨hfits, rfl⟩ := UnaryOp.apply_eq_error_iff.1 happly
    cases op with
    | plus => exact absurd (fitsInt64_toInt v) hfits
    | minus =>
      have hfits : ¬ FitsInt64 (-v.toInt) := hfits
      exact .error (by simp [failure?, he, hfits, UnaryOp.symbol])
  · have hx : x.toInt = op.exact v.toInt := UnaryOp.apply_eq_ok_iff.1 happly
    refine .ok (by rw [exactValue?, he, Option.map_some, hx]) ?_
    cases op with
    | plus => rfl
    | minus =>
      have hfits := fitsInt64_toInt x
      rw [hx, UnaryOp.exact] at hfits
      simp [failure?, he, hfits]

lemma accounts_binary (op : BinaryOp) {v w : Int64} (hl : l.exactValue? s = some v.toInt)
    (hr : r.exactValue? s = some w.toInt) :
    Accounts ((binary l op r).exactValue? s) ((binary l op r).failure? s) (op.apply v w) := by
  by_cases hzero : op = .divide ∧ w.toInt = 0
  · have happly : op.apply v w = .error .divisionByZero :=
      BinaryOp.apply_eq_error_iff.2 (by rw [if_pos hzero])
    rw [happly]
    exact .error (by simp [failure?, hl, hr, hzero])
  · rcases happly : op.apply v w with err | x
    · rw [BinaryOp.apply_eq_error_iff, if_neg hzero] at happly
      obtain ⟨hfits, rfl⟩ := happly
      exact .error (by simp [failure?, hl, hr, if_neg hzero, hfits])
    · have hx := (BinaryOp.apply_eq_ok_iff.1 happly).2
      have hfits := hx ▸ fitsInt64_toInt x
      exact .ok (by simp [exactValue?, hl, hr, if_neg hzero, hx])
        (by simp [failure?, hl, hr, if_neg hzero, hfits])

/-! ## The first node that fails -/

/-- An arithmetic tree leaves the table alone, and its result is accounted for by its exact value
and by the first failure among its nodes.

**Proof sketch.** Induction on the tree. The operands come first among the nodes of an operation, so
if one of them fails its failure is the first; if none does, the operation is applied to their exact
values. -/
lemma IsArithmetic.accounts (h : t.IsArithmetic) (s : Store) :
    ∃ result, t.run s = (result, s) ∧
      Accounts (t.exactValue? s) (t.nodes.findSome? (failure? s)) result := by
  induction h with
  | num v => exact ⟨_, run_num s v, .ok rfl rfl⟩
  | var name => exact ⟨_, run_var s name, by simpa [nodes] using accounts_var name⟩
  | @unary op e _ ih =>
    obtain ⟨result, hrun, haccounts⟩ := ih
    rw [run_unary, hrun, nodes, List.findSome?_append]
    cases haccounts with
    | ok hvalue hfailure =>
      exact ⟨_, rfl, by simpa [hfailure] using accounts_unary op hvalue⟩
    | error hfailure => exact ⟨_, rfl, .error (by rw [hfailure, Option.some_or])⟩
  | @binary op l r _ _ ihl ihr =>
    obtain ⟨resultl, hrunl, hl⟩ := ihl
    obtain ⟨resultr, hrunr, hr⟩ := ihr
    rw [run_binary, hrunl, nodes, List.findSome?_append, List.findSome?_append]
    cases hl with
    | error hfailure => exact ⟨_, rfl, .error (by rw [hfailure, Option.some_or])⟩
    | ok hvaluel hfailurel =>
      simp only [hrunr, hfailurel, Option.none_or]
      cases hr with
      | error hfailure => exact ⟨_, rfl, .error (by rw [hfailure, Option.some_or])⟩
      | ok hvaluer hfailurer =>
        exact ⟨_, rfl, by simpa [hfailurer] using accounts_binary op hvaluel hvaluer⟩

/-- An arithmetic tree leaves the table alone. -/
theorem IsArithmetic.run_snd (h : t.IsArithmetic) (s : Store) : (t.run s).2 = s := by
  obtain ⟨result, hrun, -⟩ := h.accounts s
  rw [hrun]

/-- The nodes of a node are nodes of the tree. -/
lemma IsArithmetic.of_mem_nodes (h : t.IsArithmetic) (hu : u ∈ t.nodes) :
    u.IsArithmetic ∧ u.nodes ⊆ t.nodes := by
  induction h with
  | num v | var v =>
    obtain rfl := List.mem_singleton.1 hu
    exact ⟨by constructor, List.Subset.refl _⟩
  | @unary op e he ih =>
    rcases List.mem_append.1 hu with hu | hu
    · obtain ⟨harith, hsub⟩ := ih hu
      exact ⟨harith, List.subset_append_of_subset_left _ hsub⟩
    · obtain rfl := List.mem_singleton.1 hu
      exact ⟨.unary he, List.Subset.refl _⟩
  | @binary op l r hl hr ihl ihr =>
    rcases List.mem_append.1 hu with hu | hu
    · obtain ⟨harith, hsub⟩ := ihl hu
      exact ⟨harith, List.subset_append_of_subset_left _ hsub⟩
    · rcases List.mem_append.1 hu with hu | hu
      · obtain ⟨harith, hsub⟩ := ihr hu
        exact ⟨harith, List.subset_append_of_subset_right _
          (List.subset_append_of_subset_left _ hsub)⟩
      · obtain rfl := List.mem_singleton.1 hu
        exact ⟨.binary hl hr, List.Subset.refl _⟩

/-- Where no node fails each of them has an exact value, and that is in range. -/
lemma IsArithmetic.exactValue?_of_mem_nodes (h : t.IsArithmetic)
    (hnone : t.nodes.findSome? (failure? s) = none) (hu : u ∈ t.nodes) :
    ∃ v : Int64, u.exactValue? s = some v.toInt := by
  obtain ⟨harith, hsub⟩ := h.of_mem_nodes hu
  have hnone' : u.nodes.findSome? (failure? s) = none :=
    List.findSome?_eq_none_iff.2 fun w hw => List.findSome?_eq_none_iff.1 hnone w (hsub hw)
  obtain ⟨result, -, haccounts⟩ := harith.accounts s
  cases haccounts with
  | ok hvalue hfailure => exact ⟨_, hvalue⟩
  | error hfailure => simp [hnone'] at hfailure

/-- A node does not fail if its value and those of its operands are as they should be. -/
lemma InRange.failure?_eq_none (h : t.InRange s) (hu : u ∈ t.nodes) : u.failure? s = none := by
  have hfits := h.fits u hu
  cases u with
  | num | assign | compound | noop => rfl
  | var name => simp [failure?, h.bound name hu]
  | unary op e =>
    cases op with
    | plus => rfl
    | minus =>
      rcases he : e.exactValue? s with _ | n
      · simp [failure?, he]
      · have hn : FitsInt64 (-n) := hfits _ (by simp [exactValue?, he, UnaryOp.exact])
        simp [failure?, he, hn]
  | binary l op r =>
    rcases hl : l.exactValue? s with _ | m
    · simp [failure?, hl]
    · rcases hr : r.exactValue? s with _ | n
      · simp [failure?, hr]
      · have hzero : ¬ (op = .divide ∧ n = 0) := by
          rintro ⟨rfl, rfl⟩
          exact h.divisor l r hu hr
        have hn : FitsInt64 (op.exact m n) := hfits _ (by simp [exactValue?, hl, hr, if_neg hzero])
        simp [failure?, hl, hr, if_neg hzero, hn]

/-- No node fails exactly if all variables have a value, no divisor is zero and all exact values are
in range. -/
theorem findSome?_failure?_eq_none_iff (h : t.IsArithmetic) :
    t.nodes.findSome? (failure? s) = none ↔ t.InRange s := by
  constructor
  · intro hnone
    have hexact := fun u (hu : u ∈ t.nodes) => h.exactValue?_of_mem_nodes hnone hu
    constructor
    · intro name hname
      obtain ⟨v, hv⟩ := hexact _ hname
      simp only [exactValue?, Option.map_eq_some_iff] at hv
      obtain ⟨w, hw, -⟩ := hv
      simp [hw]
    · intro l r hdivide hr
      obtain ⟨v, hv⟩ := hexact _ hdivide
      simp [exactValue?, hr] at hv
    · intro u hu n hn
      obtain ⟨v, hv⟩ := hexact u hu
      obtain rfl : n = v.toInt := by simpa [hn] using hv
      exact fitsInt64_toInt v
  · intro hrange
    exact List.findSome?_eq_none_iff.2 fun u hu => hrange.failure?_eq_none hu

/-- **Arithmetic is exact.** An arithmetic tree leaves the table alone. It has a value exactly if
every variable in it has one, no divisor is zero and the exact value of every node is a 64-bit
integer, and then the value is its exact value. Otherwise its failure is that of the first node, in
the order of evaluation, that fails. -/
theorem arithmetic_exact (t : Tree) (h : t.IsArithmetic) (s : Store) :
    (t.run s).2 = s ∧
    (∀ v, (t.run s).1 = .ok v ↔ t.InRange s ∧ t.exactValue? s = some v.toInt) ∧
    ∀ err, (t.run s).1 = .error err ↔ t.nodes.findSome? (failure? s) = some err := by
  obtain ⟨result, hrun, haccounts⟩ := h.accounts s
  rw [hrun, ← findSome?_failure?_eq_none_iff h]
  refine ⟨rfl, fun v => ?_, fun err => ?_⟩
  · cases haccounts with
    | ok hvalue hfailure => simp [hvalue, hfailure, Int64.toInt_inj]
    | error hfailure => simp [hfailure]
  · cases haccounts with
    | ok hvalue hfailure => simp [hfailure]
    | error hfailure => simp [hfailure, eq_comm]

/-- A sum that is too large is not made good by the difference around it, and it is found before the
variable that is missing. -/
theorem arithmetic_exact_inner_sum :
    (binary (binary (num Int64.maxValue) .plus (num 1)) .minus (var "x")).IsArithmetic ∧
    ((binary (binary (num Int64.maxValue) .plus (num 1)) .minus (var "x")).run ∅).1 =
      .error (.overflow "9223372036854775807 + 1") := by
  have harith (v w : Int64) (name : String) :
      (binary (binary (num v) .plus (num w)) .minus (var name)).IsArithmetic :=
    .binary (.binary (.num v) (.num w)) (.var name)
  exact ⟨harith _ _ _, ((arithmetic_exact _ (harith _ _ _) ∅).2.2 _).2 (by decide +kernel)⟩

end Tree

end BlockLang
