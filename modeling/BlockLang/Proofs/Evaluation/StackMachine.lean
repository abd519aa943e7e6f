import BlockLang.Proofs.Tree.PostfixCode

set_option relaxedAutoImplicit false
set_option autoImplicit false

/-!
# Postfix text computes

The postfix text of an expression is a program for a machine with a stack. The machine reads word by
word: integers and variables go onto the stack, signs act on its top, and operations take the right
operand from the top and the left one from below. It comes to the value that evaluation gives, or
stops at the failure that evaluation stops at.

## Main definitions

* `BlockLang.Halt` — why the machine stops before the end.
* `BlockLang.Instruction.perform` — one instruction on a stack.
* `BlockLang.performAll` — instructions one after the other.
* `BlockLang.compute` — the machine on a text.

## Main results

* `BlockLang.Tree.IsArithmetic.performAll_code_append` — the code of an expression, with any
  instructions after it and any values below.
* `BlockLang.postfix_computes` — the postfix text of an expression.
-/

namespace BlockLang

/-- Why the machine stops before the end of its text. -/
inductive Halt where
  | tooFewOperands
  /-- A variable has no value or an operation fails. -/
  | evaluation (err : EvalError)
deriving DecidableEq, Repr

/-- A result goes onto the stack if it is a value. -/
def pushResult (stack : List Int64) : Except EvalError Int64 → Except Halt (List Int64)
  | .ok v => .ok (v :: stack)
  | .error err => .error (.evaluation err)

/-- Performs an instruction on a stack, whose top is the head of the list. -/
def Instruction.perform (s : Store) : Instruction → List Int64 → Except Halt (List Int64)
  | push v, stack => .ok (v :: stack)
  | load name, stack => pushResult stack (s.read name)
  | unary op, v :: stack => pushResult stack (op.apply v)
  | binary op, w :: v :: stack => pushResult stack (op.apply v w)
  | unary _, [] | binary _, [] | binary _, [_] => .error .tooFewOperands

/-- Performs instructions one after the other, up to the first that fails. -/
def performAll (s : Store) : List Instruction → List Int64 → Except Halt (List Int64)
  | [], stack => pure stack
  | i :: is, stack => do performAll s is (← i.perform s stack)

/-- Reads the words of a text from left to right and performs what they are taken for, beginning
with the empty stack. -/
def compute (s : Store) (text : String) : Except Halt (List Int64) :=
  performAll s ((words text).map Instruction.ofWord) []

/-! ## Results of operations -/

/-- The value under a sign. -/
lemma Tree.run_unary_fst (s : Store) (op : UnaryOp) (e : Tree) :
    ((unary op e).run s).1 = (e.run s).1 >>= op.apply := by
  rw [run_unary]
  rcases e.run s with ⟨_ | _, _⟩ <;> rfl

/-- The values beside an operation are met with the same table, as the left operand leaves it
alone. -/
lemma Tree.run_binary_fst (s : Store) {l : Tree} (op : BinaryOp) (r : Tree)
    (hl : l.IsArithmetic) :
    ((binary l op r).run s).1 =
      ((l.run s).1 >>= fun v => (r.run s).1 >>= fun w => op.apply v w) := by
  have hs := hl.run_snd s
  rw [run_binary]
  rcases hrun : l.run s with ⟨_ | v, s'⟩
  · rfl
  · obtain rfl : s' = s := by rw [← hs, hrun]
    dsimp only
    rcases r.run s' with ⟨_ | _, _⟩ <;> rfl

/-! ## The machine on the code of an expression -/

variable {t : Tree}

/-- The code of an expression adds the value of the expression to the stack, whatever is on it, and
goes on with the instructions after it; or it stops at the failure of the expression.

**Proof sketch.** Induction on the expression. The code of the left operand goes on with that of the
right one, and this with the operation, which finds the right value on top of the left one. -/
theorem Tree.IsArithmetic.performAll_code_append (h : t.IsArithmetic) (s : Store)
    (is : List Instruction) (stack : List Int64) :
    performAll s (t.code ++ is) stack = pushResult stack (t.run s).1 >>= performAll s is := by
  induction h generalizing is stack with
  | num v => rfl
  | var name =>
    rw [run_var, code]
    rfl
  | @unary op e he ih =>
    rw [run_unary_fst, code, List.append_assoc, ih]
    rcases (e.run s).1 with err | v <;> rfl
  | @binary op l r hl hr ihl ihr =>
    rw [run_binary_fst s op r hl, code, List.append_assoc, ihl]
    rcases (l.run s).1 with err | v
    · rfl
    · -- The left value is on the stack, and the code of the right operand is next.
      have hright := ihr (.binary op :: is) (v :: stack)
      rw [List.append_assoc]
      refine hright.trans ?_
      rcases (r.run s).1 with err | w <;> rfl

/-- Where no variable is called like a sign, the words of the postfix text of an expression are
taken for the instructions that they were written for. -/
lemma Tree.IsArithmetic.map_ofWord_words_rpn (h : t.IsArithmetic)
    (hnames : ∀ name, Tree.var name ∈ t.nodes → IsName name ∧ name ≠ "pos" ∧ name ≠ "neg") :
    (words t.rpn).map Instruction.ofWord = t.code := by
  have hnamed := isNamed_of_mem_code fun name hname => (hnames name hname).1
  have hword : ∀ i ∈ t.code, Instruction.ofWord i.word = i := by
    intro i hi
    rcases Instruction.ofWord_word_or (hnamed i hi) with hword | ⟨op, rfl, -⟩
    · exact hword
    · obtain ⟨-, hpos, hneg⟩ := hnames _ (load_mem_code.1 hi)
      cases op with
      | plus => exact absurd rfl hpos
      | minus => exact absurd rfl hneg
  rw [words_rpn h fun name hname => (hnames name hname).1, List.map_map]
  exact (List.map_congr_left hword).trans (List.map_id _)

/-- **Postfix text computes.** Let the variables of an expression be called by names other than the
words of the signs. Then the machine that reads the postfix text of the expression never lacks an
operand, and it ends with just the value of the expression on its stack, or stops at the failure of
the expression. -/
theorem postfix_computes (t : Tree) (ht : t.IsArithmetic)
    (hnames : ∀ name, .var name ∈ t.nodes → IsName name ∧ name ≠ "pos" ∧ name ≠ "neg")
    (s : Store) :
    compute s t.rpn =
      match (t.run s).1 with
      | .ok v => .ok [v]
      | .error err => .error (.evaluation err) := by
  rw [compute, ht.map_ofWord_words_rpn hnames, ← List.append_nil t.code,
    ht.performAll_code_append]
  rcases (t.run s).1 with err | v <;> rfl

/-- A negative integer stands beside an operation that is written with the same symbol, and the
order of the operands counts twice. -/
theorem postfix_computes_negative_integer :
    let t : Tree :=
      .binary (.binary (.var "x") .minus (.num (-5))) .divide (.unary .minus (.var "x"))
    t.rpn = "x -5 - x neg /" ∧
    compute ((∅ : Store).insert "x" 2) t.rpn = .ok [-3] ∧
    compute ∅ t.rpn = .error (.evaluation (.undefinedVariable "x")) := by
  intro t
  have ht : t.IsArithmetic := .binary (.binary (.var _) (.num _)) (.unary (.var _))
  have hx : IsName "x" := ⟨'x', [], rfl, isLetter_of_isAlpha rfl, by simp⟩
  have hnames : ∀ name, .var name ∈ t.nodes → IsName name ∧ name ≠ "pos" ∧ name ≠ "neg" := by
    intro name hname
    obtain rfl : name = "x" := by simpa [t, Tree.nodes] using hname
    exact ⟨hx, by decide, by decide⟩
  refine ⟨by decide +kernel, ?_, ?_⟩
  · rw [postfix_computes t ht hnames]
    decide +kernel
  · rw [postfix_computes t ht hnames]
    decide +kernel

end BlockLang
