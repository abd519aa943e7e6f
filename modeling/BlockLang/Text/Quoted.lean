import BlockLang.Unicode.DefaultIgnorable
import BlockLang.Unicode.GraphemeExtend
import BlockLang.Unicode.Unprintable

set_option relaxedAutoImplicit false
set_option autoImplicit false

/-!
# Quoted text

A text is quoted so that all of it can be seen: quotes and backslashes are escaped, as are
characters that print nothing or would be drawn on the character before them.

## Main definitions

* `BlockLang.Quoted.isPlain` — whether a character is left as it is.
* `BlockLang.Quoted.escape` — what stands for one character.
* `BlockLang.Quoted.quote` — a text in quotes.
-/

namespace BlockLang.Quoted

/-- The halfwidth sound marks. They extend the letter before them and have a width of their own all
the same. -/
def halfwidthMarks : Unicode.Ranges :=
  [(0xFF9E, 0xFF9F)]

/-- Whether a character is drawn on the one before it. -/
def isCombining (c : Char) : Bool :=
  Unicode.graphemeExtend.has c.toNat && !halfwidthMarks.has c.toNat

/-- Whether a character shows by itself: it is not drawn on the one before it, is not left out when
a text is laid out, and has something to print. -/
def isPlain (c : Char) : Bool :=
  !isCombining c && !Unicode.defaultIgnorable.has c.toNat && !Unicode.unprintable.has c.toNat

/-- The escape of a character by its code point, in as many hexadecimal digits as it takes. -/
def codeEscape (c : Char) : String :=
  "\\u\x7b" ++ String.ofList (Nat.toDigits 16 c.toNat) ++ "\x7d"

/-- What stands for a character in a quoted text. -/
def escape (c : Char) : String :=
  match c with
  | '\x00' => "\\0"
  | '\t' => "\\t"
  | '\n' => "\\n"
  | '\r' => "\\r"
  | '"' => "\\\""
  | '\\' => "\\\\"
  | c => if isPlain c then String.singleton c else codeEscape c

/-- A text in quotes. -/
def quote (text : String) : String :=
  "\"" ++ String.join (text.toList.map escape) ++ "\""

end BlockLang.Quoted
