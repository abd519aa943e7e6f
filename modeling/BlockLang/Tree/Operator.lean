set_option relaxedAutoImplicit false
set_option autoImplicit false

/-!
# Operators

## Main definitions

* `BlockLang.UnaryOp` — the signs before an operand.
* `BlockLang.BinaryOp` — the operations between two operands.

## Main results

* `BlockLang.UnaryOp.ofSymbol?_eq_some_iff`, `BlockLang.BinaryOp.ofSymbol?_eq_some_iff` — an
  operator is read from its own symbol and from no other text.
-/

namespace BlockLang

/-- A sign: an operation on the one operand after it. -/
inductive UnaryOp where
  | plus
  | minus
deriving DecidableEq, Repr

/-- An operation on the operands before and after it. -/
inductive BinaryOp where
  | plus
  | minus
  | multiply
  | divide
deriving DecidableEq, Repr

namespace UnaryOp

/-- The name of a sign, as outlines of trees show it. -/
def name : UnaryOp → String
  | plus => "Plus"
  | minus => "Minus"

/-- The symbol of a sign. -/
def symbol : UnaryOp → String
  | plus => "+"
  | minus => "-"

/-- The sign written as a given text. -/
def ofSymbol? (text : String) : Option UnaryOp :=
  if text = "+" then some plus else if text = "-" then some minus else none

/-- A sign is read from its own symbol and from no other text. -/
theorem ofSymbol?_eq_some_iff {text : String} {op : UnaryOp} :
    ofSymbol? text = some op ↔ text = op.symbol := by
  cases op <;> grind [ofSymbol?, UnaryOp.symbol]

end UnaryOp

namespace BinaryOp

/-- The name of an operation, as outlines of trees show it. -/
def name : BinaryOp → String
  | plus => "Plus"
  | minus => "Minus"
  | multiply => "Multiply"
  | divide => "Divide"

/-- The symbol of an operation. -/
def symbol : BinaryOp → String
  | plus => "+"
  | minus => "-"
  | multiply => "*"
  | divide => "/"

/-- The operation written as a given text. -/
def ofSymbol? (text : String) : Option BinaryOp :=
  if text = "+" then some plus
  else if text = "-" then some minus
  else if text = "*" then some multiply
  else if text = "/" then some divide
  else none

/-- An operation is read from its own symbol and from no other text. -/
theorem ofSymbol?_eq_some_iff {text : String} {op : BinaryOp} :
    ofSymbol? text = some op ↔ text = op.symbol := by
  cases op <;> grind [ofSymbol?, BinaryOp.symbol]

/-- The sign that is written like an operation. -/
def sign? : BinaryOp → Option UnaryOp
  | plus => some .plus
  | minus => some .minus
  | multiply => none
  | divide => none

theorem symbol_of_sign? {op : BinaryOp} {sign : UnaryOp} (h : op.sign? = some sign) :
    op.symbol = sign.symbol := by
  cases op <;> cases sign <;> simp_all [sign?, symbol, UnaryOp.symbol]

end BinaryOp

end BlockLang
