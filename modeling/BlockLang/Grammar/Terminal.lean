import BlockLang.Token.Basic
import BlockLang.Tree.Operator

set_option relaxedAutoImplicit false
set_option autoImplicit false

/-!
# The parts that tokens play

The grammar of programs and expressions is

* program = block `.`
* block = `BEGIN` statement (`;` statement)* `END`
* statement = block, or assignment, or nothing
* assignment = name `:=` expression
* expression = term ((`+` or `-`) term)*
* term = factor ((`*` or `/`) factor)*
* factor = (`+` or `-`) factor, or integer, or `(` expression `)`, or name

where `END` is never a name, and `BEGIN` is one only in expressions.

## Main definitions

* `BlockLang.Terminal` — the terminals of the grammar.
* `BlockLang.Token.terminal` — the part that a token plays.
* `BlockLang.Expectation` — what the grammar may want at a place.
-/

namespace BlockLang

/-- A terminal of the grammar. -/
inductive Terminal where
  | integer (digits : String)
  /-- The keyword `BEGIN`, as it is spelt: in an expression it is a name. -/
  | blockBegin (spelling : String)
  | blockEnd
  | name (name : String)
  | operator (op : BinaryOp)
  | assign
  | semicolon
  | period
  | openBracket
  | closeBracket
  /-- A token that plays no part. -/
  | other
deriving DecidableEq, Repr

/-- The part that a token plays in the grammar. -/
def Token.terminal (t : Token) : Terminal :=
  match t.kind with
  | .integer => .integer t.text
  | .identifier =>
    if t.isKeyword "BEGIN" then .blockBegin t.text
    else if t.isKeyword "END" then .blockEnd
    else .name t.text
  | .operator => ((BinaryOp.ofSymbol? t.text).map Terminal.operator).getD .other
  | .sign =>
    if t.text = ":=" then .assign
    else if t.text = ";" then .semicolon
    else if t.text = "." then .period
    else .other
  | .bracket =>
    if t.text = "(" then .openBracket
    else if t.text = ")" then .closeBracket
    else .other
  | .eof => .other

/-- What the grammar may want at a place. -/
inductive Expectation where
  | blockBegin
  | blockEnd
  | assign
  | period
  | closeBracket
  | expression
  | variableName
  | endOfInput
deriving DecidableEq, Repr

/-- What is wanted, as error messages name it. -/
def Expectation.text : Expectation → String
  | blockBegin => "`BEGIN`"
  | blockEnd => "`END`"
  | assign => "`:=`"
  | period => "`.`"
  | closeBracket => "`)`"
  | expression => "expression"
  | variableName => "variable"
  | endOfInput => "end of input"

end BlockLang
