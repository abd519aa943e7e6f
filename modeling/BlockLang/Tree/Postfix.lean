import BlockLang.Number.Decimal
import BlockLang.Tree.Basic

set_option relaxedAutoImplicit false
set_option autoImplicit false

/-!
# Trees in reverse Polish notation

Every operator stands after its operands. The signs are words of their own, `pos` and `neg`, as
the symbols stand for operations on two operands.

## Main definitions

* `BlockLang.Tree.rpn` — a tree in reverse Polish notation.
-/

namespace BlockLang

/-- A sign as a word that acts on the one operand before it. -/
def UnaryOp.word : UnaryOp → String
  | plus => "pos"
  | minus => "neg"

namespace Tree

mutual

/-- A tree with every operator after its operands. -/
def rpn : Tree → String
  | num value => Decimal.ofInt64 value
  | var name => name
  | unary op operand => rpn operand ++ " " ++ op.word
  | binary left op right => rpn left ++ " " ++ rpn right ++ " " ++ op.symbol
  | assign name value => name ++ " " ++ rpn value ++ " :="
  | compound children => "begin " ++ String.intercalate "; " (rpns children) ++ " end"
  | noop => ""

/-- The trees of a list with every operator after its operands. -/
def rpns : List Tree → List String
  | [] => []
  | child :: children => rpn child :: rpns children

end

theorem rpns_eq_map (children : List Tree) : rpns children = children.map rpn := by
  induction children with
  | nil => rfl
  | cons child children ih => rw [rpns, ih, List.map_cons]

end Tree

end BlockLang
