import BlockLang.Console.Style
import BlockLang.Grammar.ParseError
import BlockLang.Text.Location

set_option relaxedAutoImplicit false
set_option autoImplicit false

/-!
# Reports of errors

## Main definitions

* `BlockLang.Console.errorLine` — a report of one line.
* `BlockLang.Console.diagnostic` — a parse error with the line it is in and a mark below its
  place.
-/

namespace BlockLang.Console

/-- A text with its line's end. -/
def line (text : String) : String :=
  text ++ "\n"

/-- A number of spaces. -/
def spaces (n : Nat) : String :=
  String.ofList (List.replicate n ' ')

/-- A text at the right end of a column of the given width. -/
def alignRight (width : Nat) (text : String) : String :=
  spaces (width - text.length) ++ text

/-- An error on a line of its own. -/
def errorLine (message : String) : String :=
  line (paint [.red, .bold] "[ERROR]" ++ " " ++ message)

/-- What may stand in a text, for whoever wrote a character that may not. -/
def alphabetNote : String :=
  line (paint [.yellow] "note" ++
    ": only integers, identifiers and `:= ; . + - * / ( )` are allowed")

/-- Whether an error is a character that begins no word. -/
def isInvalidCharacter : ParseError → Bool
  | .invalidCharacter _ _ => true
  | _ => false

/-- A parse error in a text: what it is and where, the line it is in, and a mark below its place.
Lines and columns are counted from one. -/
def diagnostic (origin text : String) (error : ParseError) : String :=
  let place := locate text.toList error.position
  let number := toString (place.line + 1)
  line (paint [.red, .bold] "error" ++ ": " ++ error.message) ++
  line ("     " ++ paint [.blue] "-->" ++ " " ++
    paint [.underline] (origin ++ ":" ++ number ++ ":" ++ toString (place.column + 1))) ++
  line ("      " ++ paint [.blue] "|") ++
  line (" " ++ paint [.blue] (alignRight 4 number ++ " |") ++ " " ++
    String.ofList place.content) ++
  line ("      " ++ paint [.blue] "|" ++ " " ++ spaces place.column ++ paint [.red, .bold] "^") ++
  if isInvalidCharacter error then alphabetNote else ""

end BlockLang.Console
