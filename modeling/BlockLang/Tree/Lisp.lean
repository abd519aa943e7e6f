import BlockLang.Number.Decimal
import BlockLang.Tree.Basic

set_option relaxedAutoImplicit false
set_option autoImplicit false

/-!
# Trees as bracketed lists

Every node but a leaf is written as a list in brackets, with what it does at the head.

## Main definitions

* `BlockLang.Tree.lisp` — the list of a tree.
-/

namespace BlockLang.Tree

mutual

/-- A tree as a bracketed list, the operator first. -/
def lisp : Tree → String
  | num value => Decimal.ofInt64 value
  | var name => name
  | unary op operand => "(" ++ op.symbol ++ " " ++ lisp operand ++ ")"
  | binary left op right => "(" ++ op.symbol ++ " " ++ lisp left ++ " " ++ lisp right ++ ")"
  | assign name value => "(:= " ++ name ++ " " ++ lisp value ++ ")"
  | compound children => "(begin " ++ String.intercalate " " (lisps children) ++ ")"
  | noop => "()"

/-- The bracketed lists of a list of trees. -/
def lisps : List Tree → List String
  | [] => []
  | child :: children => lisp child :: lisps children

end

theorem lisps_eq_map (children : List Tree) : lisps children = children.map lisp := by
  induction children with
  | nil => rfl
  | cons child children ih => rw [lisps, ih, List.map_cons]

end BlockLang.Tree
