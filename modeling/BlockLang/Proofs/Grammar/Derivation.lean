import BlockLang.Grammar.Terminal
import BlockLang.Number.Decimal
import BlockLang.Tree.Basic
import Mathlib.Tactic.Common

set_option relaxedAutoImplicit false
set_option autoImplicit false

/-!
# The grammar

The grammar says which tokens are an expression or a program, and which tree they are, without
saying how to find that out. It has a part for each production; chains of operators group to the
left as the left operand of an operation is itself a chain.

## Main definitions

* `BlockLang.Expression.Derives` — the grammar of expressions.
* `BlockLang.Program.Derives` — the grammar of programs.

## Main results

* `BlockLang.Token.terminal_eq_iff_is` and its like — the part a token plays is told by its kind and
  its text.
-/

namespace BlockLang

namespace Expression

/-- The parts of an expression. -/
inductive Part where
  | factor
  | term
  | expression
deriving DecidableEq, Repr

/-- Tokens that are a part of an expression, and its tree. -/
inductive Derives : Part → List Token → Tree → Prop where
  | sign {t : Token} {op : UnaryOp} {ts : List Token} {e : Tree}
      (ht : t.is .operator op.symbol = true) (he : Derives .factor ts e) :
      Derives .factor (t :: ts) (.unary op e)
  /-- An integer has the value of its digits, which must be that of a 64-bit integer. -/
  | integer {t : Token} {v : Int64} (ht : t.kind = .integer)
      (hv : v.toInt = Decimal.value t.text.toList) : Derives .factor [t] (.num v)
  | bracket {l r : Token} {ts : List Token} {e : Tree} (hl : l.is .bracket "(" = true)
      (he : Derives .expression ts e) (hr : r.is .bracket ")" = true) :
      Derives .factor (l :: (ts ++ [r])) e
  | name {t : Token} (ht : t.kind = .identifier) (hend : t.isKeyword "END" = false) :
      Derives .factor [t] (.var t.text)
  | factor {ts : List Token} {e : Tree} (he : Derives .factor ts e) : Derives .term ts e
  | product {t : Token} {op : BinaryOp} {ts us : List Token} {l r : Tree}
      (hl : Derives .term ts l) (hop : op = .multiply ∨ op = .divide)
      (ht : t.is .operator op.symbol = true) (hr : Derives .factor us r) :
      Derives .term (ts ++ t :: us) (.binary l op r)
  | term {ts : List Token} {e : Tree} (he : Derives .term ts e) : Derives .expression ts e
  | sum {t : Token} {op : BinaryOp} {ts us : List Token} {l r : Tree}
      (hl : Derives .expression ts l) (hop : op = .plus ∨ op = .minus)
      (ht : t.is .operator op.symbol = true) (hr : Derives .term us r) :
      Derives .expression (ts ++ t :: us) (.binary l op r)

end Expression

namespace Program

/-- The parts of a program. -/
inductive Part where
  | statement
  /-- The statements between the keywords of a block; their tree is the block. -/
  | statements
  | block
  | program
deriving DecidableEq, Repr

/-- Tokens that are a part of a program, and its tree. -/
inductive Derives : Part → List Token → Tree → Prop where
  | empty : Derives .statement [] .noop
  | assignment {t a : Token} {es : List Token} {e : Tree} (ht : t.kind = .identifier)
      (hbegin : t.isKeyword "BEGIN" = false) (hend : t.isKeyword "END" = false)
      (ha : a.is .sign ":=" = true) (he : Expression.Derives .expression es e) :
      Derives .statement (t :: a :: es) (.assign t.text e)
  | nested {ts : List Token} {b : Tree} (hb : Derives .block ts b) : Derives .statement ts b
  | first {ts : List Token} {s : Tree} (hs : Derives .statement ts s) :
      Derives .statements ts (.compound [s])
  | next {t : Token} {ts us : List Token} {cs : List Tree} {s : Tree}
      (hcs : Derives .statements ts (.compound cs)) (ht : t.is .sign ";" = true)
      (hs : Derives .statement us s) : Derives .statements (ts ++ t :: us) (.compound (cs ++ [s]))
  | block {l r : Token} {ts : List Token} {b : Tree} (hl : l.isKeyword "BEGIN" = true)
      (hb : Derives .statements ts b) (hr : r.isKeyword "END" = true) :
      Derives .block (l :: (ts ++ [r])) b
  | program {t : Token} {ts : List Token} {b : Tree} (hb : Derives .block ts b)
      (ht : t.is .sign "." = true) : Derives .program (ts ++ [t]) b

end Program

/-! ## The parts of tokens -/

/-- The symbol that a terminal is written as, if it is always written the same. -/
def Terminal.symbol? : Terminal → Option (Token.Kind × String)
  | operator op => some (.operator, op.symbol)
  | assign => some (.sign, ":=")
  | semicolon => some (.sign, ";")
  | period => some (.sign, ".")
  | openBracket => some (.bracket, "(")
  | closeBracket => some (.bracket, ")")
  | integer _ | blockBegin _ | blockEnd | name _ | other => none

namespace Token

variable {t : Token}

lemma is_eq_true_iff {kind : Kind} {text : String} :
    t.is kind text = true ↔ t.kind = kind ∧ t.text = text := by
  simp [Token.is]

lemma kind_of_isKeyword {keyword : String} (h : t.isKeyword keyword = true) :
    t.kind = .identifier := by
  simp only [isKeyword, Bool.and_eq_true, beq_iff_eq] at h
  exact h.1

/-- No token spells both keywords. -/
lemma isKeyword_end_eq_false (h : t.isKeyword "BEGIN" = true) : t.isKeyword "END" = false := by
  simp only [isKeyword, Bool.and_eq_true, beq_iff_eq] at h
  simp only [isKeyword, h.2]
  have hne : (foldCase "BEGIN" == foldCase "END") = false := by decide
  rw [hne, Bool.and_false]

lemma terminal_eq_integer_iff {digits : String} :
    t.terminal = .integer digits ↔ t.kind = .integer ∧ t.text = digits := by
  unfold terminal
  cases BinaryOp.ofSymbol? t.text <;> grind

lemma terminal_eq_blockBegin_iff {name : String} :
    t.terminal = .blockBegin name ↔ t.isKeyword "BEGIN" = true ∧ t.text = name := by
  have hkind : t.isKeyword "BEGIN" = true → t.kind = .identifier := kind_of_isKeyword
  unfold terminal
  cases BinaryOp.ofSymbol? t.text <;> grind

lemma terminal_eq_blockEnd_iff : t.terminal = .blockEnd ↔ t.isKeyword "END" = true := by
  have hkind : t.isKeyword "END" = true → t.kind = .identifier := kind_of_isKeyword
  have hboth := isKeyword_end_eq_false (t := t)
  unfold terminal
  cases BinaryOp.ofSymbol? t.text <;> grind

lemma terminal_eq_name_iff {name : String} :
    t.terminal = .name name ↔ t.kind = .identifier ∧ t.isKeyword "BEGIN" = false ∧
      t.isKeyword "END" = false ∧ t.text = name := by
  unfold terminal
  cases BinaryOp.ofSymbol? t.text <;> grind

/-- A symbol plays the part that it is written for, and no other token plays it. -/
lemma terminal_eq_iff_is {x : Terminal} {kind : Kind} {text : String}
    (hx : x.symbol? = some (kind, text)) : t.terminal = x ↔ t.is kind text = true := by
  rw [is_eq_true_iff]
  cases x with
  | operator op =>
    obtain ⟨rfl, rfl⟩ : Kind.operator = kind ∧ op.symbol = text := by
      simpa [Terminal.symbol?] using hx
    rw [← BinaryOp.ofSymbol?_eq_some_iff]
    unfold terminal
    cases BinaryOp.ofSymbol? t.text <;> grind
  | integer | blockBegin | blockEnd | name | other => simp [Terminal.symbol?] at hx
  | assign | semicolon | period | openBracket | closeBracket =>
    simp only [Terminal.symbol?, Option.some.injEq, Prod.mk.injEq] at hx
    obtain ⟨rfl, rfl⟩ := hx
    unfold terminal
    cases BinaryOp.ofSymbol? t.text <;> grind

end Token

end BlockLang
