import BlockLang.Grammar.Program

set_option relaxedAutoImplicit false
set_option autoImplicit false

/-!
# Parsing a text

## Main definitions

* `BlockLang.parse` — the tree of a program.
* `BlockLang.parseExpr` — the tree of an expression.
-/

namespace BlockLang

/-- The tree of the program that a text is, or the first error in it. The tree is a block. -/
def parse (text : String) : Except ParseError Tree :=
  Program.automaton.run (.ofText text)

/-- The tree of the expression that a text is, or the first error in it. -/
def parseExpr (text : String) : Except ParseError Tree :=
  Expression.automaton.run (.ofText text)

end BlockLang
