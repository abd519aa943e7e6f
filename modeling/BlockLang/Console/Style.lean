set_option relaxedAutoImplicit false
set_option autoImplicit false

/-!
# Styles of console text

## Main definitions

* `BlockLang.Console.Style` — a colour or another quality of text.
* `BlockLang.Console.paint` — a text in some styles.
-/

namespace BlockLang.Console

/-- A quality of text on a console. -/
inductive Style where
  | bold
  | underline
  | red
  | yellow
  | blue
deriving DecidableEq, Repr

/-- The control sequence with the given number. -/
def control (number : String) : String :=
  "\x1b[" ++ number ++ "m"

/-- Begins a style. -/
def Style.on : Style → String
  | bold => control "1"
  | underline => control "4"
  | red => control "31"
  | yellow => control "33"
  | blue => control "34"

/-- Ends a style; all colours end alike. -/
def Style.off : Style → String
  | bold => control "22"
  | underline => control "24"
  | red | yellow | blue => control "39"

/-- A text in some styles, which end in the order in which they begin. -/
def paint (styles : List Style) (text : String) : String :=
  String.join (styles.map Style.on) ++ text ++ String.join (styles.map Style.off)

end BlockLang.Console
