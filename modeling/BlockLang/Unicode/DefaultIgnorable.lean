import BlockLang.Unicode.Ranges

set_option relaxedAutoImplicit false
set_option autoImplicit false
set_option maxRecDepth 10000

/-!
# Ignorable characters

The table is that of Unicode 17.0.

## Main definitions

* `BlockLang.Unicode.defaultIgnorable` — the table.

## Main results

* `BlockLang.Unicode.defaultIgnorable_ascends` — its ranges ascend.
-/

namespace BlockLang.Unicode

/-- The characters with the property Default_Ignorable_Code_Point: fillers, joiners, selectors of a
variant and other characters that leave no trace of their own. -/
def defaultIgnorable : Ranges :=
  [(0xAD, 0xAD), (0x34F, 0x34F), (0x61C, 0x61C), (0x115F, 0x1160), (0x17B4, 0x17B5),
   (0x180B, 0x180F), (0x200B, 0x200F), (0x202A, 0x202E), (0x2060, 0x206F), (0x3164, 0x3164),
   (0xFE00, 0xFE0F), (0xFEFF, 0xFEFF), (0xFFA0, 0xFFA0), (0xFFF0, 0xFFF8), (0x1BCA0, 0x1BCA3),
   (0x1D173, 0x1D17A), (0xE0000, 0xE0FFF)]

/-- The ranges of the table ascend, so that the search in it decides membership. -/
theorem defaultIgnorable_ascends : defaultIgnorable.ascendsFrom 0 = true := by
  decide +kernel

end BlockLang.Unicode
