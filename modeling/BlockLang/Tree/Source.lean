import BlockLang.Number.Decimal
import BlockLang.Tree.Basic

set_option relaxedAutoImplicit false
set_option autoImplicit false

/-!
# Trees as source text

Every operation is written in brackets, so the text needs no rule of precedence to be read back.

## Main definitions

* `BlockLang.Tree.source` — the text of a tree.
* `BlockLang.Tree.programSource` — the text of a block as a whole program.
-/

namespace BlockLang.Tree

mutual

/-- The text of a tree, every operation in brackets. -/
def source : Tree → String
  | num value => Decimal.ofInt64 value
  | var name => name
  | unary op operand => "(" ++ op.symbol ++ source operand ++ ")"
  | binary left op right => "(" ++ source left ++ " " ++ op.symbol ++ " " ++ source right ++ ")"
  | assign name value => name ++ " := " ++ source value
  | compound children => "BEGIN " ++ String.intercalate "; " (sources children) ++ " END"
  | noop => ""

/-- The texts of a list of trees. -/
def sources : List Tree → List String
  | [] => []
  | child :: children => source child :: sources children

end

/-- The text of a block as a whole program, with the final period. -/
def programSource (t : Tree) : String :=
  source t ++ "."

theorem sources_eq_map (children : List Tree) : sources children = children.map source := by
  induction children with
  | nil => rfl
  | cons child children ih => rw [sources, ih, List.map_cons]

end BlockLang.Tree
