import BlockLang.Grammar.Automaton
import BlockLang.Number.Decimal

set_option relaxedAutoImplicit false
set_option autoImplicit false

/-!
# Reading an expression

Of an unfinished expression one has to remember at most a sum that waits for its next term, a
product that waits for its next factor, and the signs before the next operand; and the same again
for each bracket that is still open. Both operators and signs group to the side where the operand
stands first: sums and products to the left, signs to the right.

## Main definitions

* `BlockLang.Expression.Chain` — the unfinished part of an expression.
* `BlockLang.Expression.State` — the states, before and after an operand.
* `BlockLang.Expression.automaton` — reads an expression and nothing after it.
-/

namespace BlockLang.Expression

/-- An operation whose right operand is still to come. -/
structure Pending where
  left : Tree
  op : BinaryOp
deriving DecidableEq, Repr

/-- Completes an operation with its right operand; without an operation this is the operand. -/
def complete : Option Pending → Tree → Tree
  | none, right => right
  | some p, right => .binary p.left p.op right

/-- The unfinished part of an expression, up to where an operand is to come. -/
structure Chain where
  /-- A sum that waits for its next term. -/
  sum : Option Pending
  /-- Within that term, a product that waits for its next factor. -/
  product : Option Pending
  /-- The signs before that factor, the last one first. -/
  signs : List UnaryOp
deriving DecidableEq, Repr

namespace Chain

/-- Nothing of the expression has been read. -/
def empty : Chain :=
  ⟨none, none, []⟩

/-- The term so far, once the operand has come. -/
def term (c : Chain) (operand : Tree) : Tree :=
  complete c.product (c.signs.foldl (fun e sign => .unary sign e) operand)

end Chain

/-- The states of reading an expression. The chains of the open brackets' surroundings come along,
the innermost first. -/
inductive State where
  /-- An operand is to come. -/
  | operand (chain : Chain) (outer : List Chain)
  /-- A term has been read so far, after the sum it belongs to. -/
  | operator (term : Tree) (sum : Option Pending) (outer : List Chain)
deriving DecidableEq, Repr

namespace State

/-- Takes or refuses a token where an operand is to come. -/
def stepOperand (chain : Chain) (outer : List Chain) : Terminal → Except Refusal State
  | .integer digits =>
    match Decimal.literal? digits.toList with
    | some value => .ok (operator (chain.term (.num value)) chain.sum outer)
    | none => .error (.tooLarge digits)
  | .name name | .blockBegin name => .ok (operator (chain.term (.var name)) chain.sum outer)
  | .openBracket => .ok (operand .empty (chain :: outer))
  | .operator op =>
    match op.sign? with
    | some sign => .ok (operand ⟨chain.sum, chain.product, sign :: chain.signs⟩ outer)
    | none => .error (.expected .expression)
  | .blockEnd => .error (.expected .variableName)
  | _ => .error (.expected .expression)

/-- Takes or refuses a token after a term. The closing bracket makes the whole sum an operand of
the chain around the bracket. -/
def stepOperator (term : Tree) (sum : Option Pending) (outer : List Chain) :
    Terminal → Except Refusal State
  | .operator op =>
    match op with
    | .multiply | .divide => .ok (operand ⟨sum, some ⟨term, op⟩, []⟩ outer)
    | .plus | .minus => .ok (operand ⟨some ⟨complete sum term, op⟩, none, []⟩ outer)
  | terminal =>
    match outer with
    | [] => .error (.expected .endOfInput)
    | chain :: outer =>
      if terminal = .closeBracket then
        .ok (operator (chain.term (complete sum term)) chain.sum outer)
      else
        .error (.expected .closeBracket)

/-- Takes or refuses a token. -/
def step : State → Terminal → Except Refusal State
  | operand chain outer => stepOperand chain outer
  | operator term sum outer => stepOperator term sum outer

/-- The expression that has been read, if it may end here. -/
def finish : State → Except Refusal Tree
  | operand _ _ => .error (.expected .expression)
  | operator term sum [] => .ok (complete sum term)
  | operator _ _ (_ :: _) => .error (.expected .closeBracket)

/-- Before the first token an operand is to come. -/
def start : State :=
  operand .empty []

end State

/-- Reads an expression and nothing after it. -/
def automaton : Automaton State where
  start := .start
  step := State.step
  finish := State.finish

end BlockLang.Expression
