import BlockLang.Token.Cursor

set_option relaxedAutoImplicit false
set_option autoImplicit false

/-!
# Why a text does not parse

## Main definitions

* `BlockLang.ParseError` — what is wrong with a text, and where.
* `BlockLang.ParseError.message` — the error as its reader sees it.
-/

namespace BlockLang

/-- What is wrong with a text. Places count the characters before the offending one. -/
inductive ParseError where
  /-- A character that begins no word. -/
  | invalidCharacter (ch : Char) (pos : Nat)
  /-- An integer literal that is no 64-bit integer. -/
  | integerTooLarge (digits : String) (pos : Nat)
  /-- Something else was wanted where a token stands. -/
  | unexpected (expected found : String) (pos : Nat)
deriving DecidableEq, Repr

namespace ParseError

/-- The place of an error. -/
def position : ParseError → Nat
  | invalidCharacter _ pos => pos
  | integerTooLarge _ pos => pos
  | unexpected _ _ pos => pos

/-- Whether the error lies in a word by itself, and not in what stands around it. -/
def isLexical : ParseError → Bool
  | invalidCharacter _ _ => true
  | integerTooLarge _ _ => true
  | unexpected _ _ _ => false

/-- The error as its reader sees it. -/
def message : ParseError → String
  | invalidCharacter ch pos =>
    "Invalid character `" ++ String.singleton ch ++ "` at position " ++ toString pos
  | integerTooLarge digits pos =>
    "Integer literal `" ++ digits ++ "` at position " ++ toString pos ++ " is too large"
  | unexpected expected found pos =>
    "Expected " ++ expected ++ ", found " ++ found ++ " at position " ++ toString pos

end ParseError

/-- The token that a reading finds, or the error that it is. -/
def Reading.result (pos : Nat) : Reading → Except ParseError Token
  | .token tok => .ok tok
  | .eof => .ok .eof
  | .invalid ch => .error (.invalidCharacter ch pos)

end BlockLang
