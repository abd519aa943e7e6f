import BlockLang.Unicode.Ranges

set_option relaxedAutoImplicit false
set_option autoImplicit false
set_option maxRecDepth 10000

/-!
# White space

The table is that of Unicode 17.0.

## Main definitions

* `BlockLang.Unicode.whiteSpace` — the table.

## Main results

* `BlockLang.Unicode.whiteSpace_ascends` — its ranges ascend.
-/

namespace BlockLang.Unicode

/-- The characters with the property White_Space. -/
def whiteSpace : Ranges :=
  [(0x9, 0xD), (0x20, 0x20), (0x85, 0x85), (0xA0, 0xA0), (0x1680, 0x1680), (0x2000, 0x200A),
   (0x2028, 0x2029), (0x202F, 0x202F), (0x205F, 0x205F), (0x3000, 0x3000)]

/-- The ranges of the table ascend, so that the search in it decides membership. -/
theorem whiteSpace_ascends : whiteSpace.ascendsFrom 0 = true := by
  decide +kernel

end BlockLang.Unicode
