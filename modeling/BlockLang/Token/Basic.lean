set_option relaxedAutoImplicit false
set_option autoImplicit false

/-!
# Tokens

## Main definitions

* `BlockLang.Token` — a word of a text, or its end.
* `BlockLang.Token.isKeyword` — keywords are compared without regard to the case of ASCII letters.
* `BlockLang.Token.display` — a token as error messages name it.
-/

namespace BlockLang

namespace Token

/-- The kinds of words, and the end of a text. -/
inductive Kind where
  | integer
  | identifier
  /-- One of `+ - * /`. -/
  | operator
  /-- One of `:=`, `;` and `.`. -/
  | sign
  /-- One of `(` and `)`. -/
  | bracket
  | eof
deriving DecidableEq, Repr

/-- The kind of a word that is one symbol. -/
def Kind.ofSymbol? : Char → Option Kind
  | '+' | '-' | '*' | '/' => some .operator
  | ';' | '.' => some .sign
  | '(' | ')' => some .bracket
  | _ => none

end Token

/-- A word of a text: its kind, and its characters if it has any. -/
structure Token where
  kind : Token.Kind
  text? : Option String
deriving DecidableEq, Repr

namespace Token

/-- The token of a kind that is written as the given characters. -/
def ofChars (kind : Kind) (chars : List Char) : Token :=
  ⟨kind, some (String.ofList chars)⟩

/-- The end of a text. -/
def eof : Token :=
  ⟨.eof, none⟩

/-- The characters of a token; a token without any has the empty text. -/
def text (t : Token) : String :=
  t.text?.getD ""

/-- Whether a token has the given kind and the given text. -/
def is (t : Token) (kind : Kind) (text : String) : Bool :=
  t.kind == kind && t.text == text

/-- The characters of a text with the ASCII letters among them in lower case. -/
def foldCase (text : String) : List Char :=
  text.toList.map Char.toLower

/-- Whether a token is an identifier that spells the given keyword, in upper or lower case. -/
def isKeyword (t : Token) (keyword : String) : Bool :=
  t.kind == .identifier && foldCase t.text == foldCase keyword

/-- A token as error messages name it. -/
def display (t : Token) : String :=
  match t.kind with
  | .eof => "end of input"
  | .integer => "integer `" ++ t.text ++ "`"
  | .identifier => "identifier `" ++ t.text ++ "`"
  | .operator | .sign | .bracket => "`" ++ t.text ++ "`"

@[simp] theorem text_ofChars (kind : Kind) (chars : List Char) :
    (ofChars kind chars).text = String.ofList chars :=
  rfl

@[simp] theorem kind_ofChars (kind : Kind) (chars : List Char) :
    (ofChars kind chars).kind = kind :=
  rfl

end Token

end BlockLang
