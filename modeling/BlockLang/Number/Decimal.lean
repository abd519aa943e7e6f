import BlockLang.Number.Exact

set_option relaxedAutoImplicit false
set_option autoImplicit false

/-!
# Decimal text

Integers are written with as few decimal digits as will do, and a minus sign before negative ones.
Only digits are read: a sign in a text is an operator.

## Main definitions

* `BlockLang.Decimal.digits`, `BlockLang.Decimal.value` — a number to its digits and back.
* `BlockLang.Decimal.ofInt` — an integer as text.
* `BlockLang.Decimal.literal?` — the 64-bit integer that a run of digits stands for.

## Main results

* `BlockLang.Decimal.value_digits` — the digits of a number have its value.
* `BlockLang.Decimal.literal?_eq_some_iff` — a literal has the value of its digits.
-/

namespace BlockLang.Decimal

/-- The decimal digits of a number, without leading zeros. -/
def digits (n : Nat) : List Char :=
  Nat.toDigits 10 n

/-- The value of a run of decimal digits; leading zeros do not count. -/
def value (ds : List Char) : Nat :=
  Nat.ofDigitChars 10 ds 0

/-- An integer as text: its digits, after a minus sign if it is negative. -/
def ofInt (n : Int) : String :=
  if n < 0 then "-" ++ String.ofList (digits n.natAbs) else String.ofList (digits n.natAbs)

/-- A 64-bit integer as text. -/
def ofInt64 (v : Int64) : String :=
  ofInt v.toInt

/-- The 64-bit integer that a run of digits stands for, if it is not too large. -/
def literal? (ds : List Char) : Option Int64 :=
  int64? (value ds)

/-! ## Digits and values -/

@[simp] theorem value_digits (n : Nat) : value (digits n) = n :=
  Nat.ofDigitChars_ten_toDigits

theorem isDigit_of_mem_digits {n : Nat} {c : Char} (h : c ∈ digits n) : c.isDigit = true :=
  Nat.isDigit_of_mem_toDigits (by decide) (by decide) h

theorem digits_ne_nil (n : Nat) : digits n ≠ [] :=
  Nat.toDigits_ne_nil

theorem literal?_eq_some_iff {ds : List Char} {v : Int64} :
    literal? ds = some v ↔ v.toInt = value ds :=
  int64?_eq_some_iff

theorem literal?_eq_none_iff {ds : List Char} :
    literal? ds = none ↔ Int64.maxValue.toInt < value ds := by
  have hmin : Int64.minValue.toInt ≤ 0 := by decide
  rw [literal?, int64?_eq_none_iff]
  omega

end BlockLang.Decimal
