set_option relaxedAutoImplicit false
set_option autoImplicit false

/-!
# Exact 64-bit results

Arithmetic is done on the unbounded integers, and a result counts only if it is a 64-bit signed
integer.

## Main definitions

* `BlockLang.int64?` — the 64-bit integer of a given value, if there is one.

## Main results

* `BlockLang.int64?_eq_some_iff` — it has that very value.
* `BlockLang.int64?_eq_none_iff` — it is missing exactly for values out of range.
-/

namespace BlockLang

/-- The 64-bit integer with the value `n`, which must lie in `[-2^63, 2^63 - 1]`. -/
def int64? (n : Int) : Option Int64 :=
  if h : Int64.minValue.toInt ≤ n ∧ n ≤ Int64.maxValue.toInt then
    some (Int64.ofIntLE n h.1 h.2)
  else
    none

/-- A 64-bit integer is found by its own value. -/
theorem int64?_toInt (v : Int64) : int64? v.toInt = some v := by
  rw [int64?, dif_pos ⟨Int64.minValue_le_toInt v, Int64.toInt_le v⟩, Int64.ofIntLE_toInt]

/-- What is found has the value that was asked for. -/
theorem int64?_eq_some_iff {n : Int} {v : Int64} : int64? n = some v ↔ v.toInt = n := by
  constructor
  · intro h
    simp only [int64?, Option.dite_none_right_eq_some, Option.some.injEq] at h
    obtain ⟨hrange, rfl⟩ := h
    exact Int64.toInt_ofIntLE
  · rintro rfl
    exact int64?_toInt v

/-- Nothing is found exactly for values out of range. -/
theorem int64?_eq_none_iff {n : Int} :
    int64? n = none ↔ n < Int64.minValue.toInt ∨ Int64.maxValue.toInt < n := by
  rw [int64?, dite_eq_right_iff]
  simp only [reduceCtorEq, imp_false]
  omega

end BlockLang
