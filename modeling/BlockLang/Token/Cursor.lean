import BlockLang.Token.Lexeme

set_option relaxedAutoImplicit false
set_option autoImplicit false

/-!
# Reading a text word by word

A cursor is a place in a text. Each reading skips blanks and takes the word that follows. At the end
of the text the reading is the end, again and again; at a character that begins no word it is that
character, and the cursor stays before it.

Places are counted in characters from the start of the text.

## Main definitions

* `BlockLang.Cursor` — a place in a text, and where the last word began.
* `BlockLang.Cursor.next` — one reading, and the cursor after it.
* `BlockLang.TokenStream`, `BlockLang.Cursor.stream` — all there is to read from a cursor on.

## Main results

* `BlockLang.Cursor.length_rest_lt_of_next` — reading a word leaves less to read.
* `BlockLang.Cursor.stream_of_token`, `BlockLang.Cursor.stream_of_eof`,
  `BlockLang.Cursor.stream_of_invalid` — the stream lists the readings.
-/

namespace BlockLang

/-- What one reading finds. -/
inductive Reading where
  | token (tok : Token)
  | eof
  /-- A character that begins no word. -/
  | invalid (ch : Char)
deriving DecidableEq, Repr

/-- A place in a text. -/
structure Cursor where
  /-- The text from here on. -/
  rest : List Char
  /-- How many characters lie before. -/
  pos : Nat
  /-- Where the last reading found something after the blanks. -/
  start : Nat
deriving DecidableEq, Repr

/-- All there is to read: words with their places, up to the end of the text or up to a character
that begins no word. -/
inductive TokenStream where
  | eof (pos : Nat)
  | invalid (ch : Char) (pos : Nat)
  | token (tok : Token) (start : Nat) (rest : TokenStream)
deriving DecidableEq, Repr

namespace Cursor

/-- The start of a text. -/
def ofText (text : String) : Cursor :=
  ⟨text.toList, 0, 0⟩

/-- The cursor after the blanks, where the next reading starts. -/
def skipBlanks (c : Cursor) : Cursor :=
  let pos := c.pos + (c.rest.takeWhile isBlank).length
  ⟨c.rest.dropWhile isBlank, pos, pos⟩

/-- What stands right at a cursor, and the cursor after it. -/
def here (c : Cursor) : Reading × Cursor :=
  match c.rest with
  | [] => (.eof, c)
  | ch :: cs =>
    match Lexeme.first? (ch :: cs) with
    | some w => (.token w.token, ⟨w.rest, c.pos + w.chars.length, c.start⟩)
    | none => (.invalid ch, c)

/-- One reading and the cursor after it. -/
def next (c : Cursor) : Reading × Cursor :=
  c.skipBlanks.here

/-- The cursor after a number of readings, whatever they find. -/
def skip (c : Cursor) : Nat → Cursor
  | 0 => c
  | n + 1 => c.next.2.skip n

/-- A number of readings, each with the place where it found something. -/
def readings (c : Cursor) : Nat → List (Reading × Nat)
  | 0 => []
  | n + 1 => (c.next.1, c.next.2.start) :: c.next.2.readings n

/-! ## Progress -/

theorem length_rest_skipBlanks_le (c : Cursor) : c.skipBlanks.rest.length ≤ c.rest.length :=
  (List.dropWhile_sublist isBlank).length_le

theorem length_rest_lt_of_here {c c' : Cursor} {tok : Token} (h : c.here = (.token tok, c')) :
    c'.rest.length < c.rest.length := by
  unfold here at h
  split at h
  · simp at h
  · next ch cs hrest =>
    split at h
    · next w hw =>
      simp only [Prod.mk.injEq] at h
      rw [← h.2, hrest]
      exact Lexeme.length_rest_lt hw
    · simp at h

/-- Reading a word leaves less to read. -/
theorem length_rest_lt_of_next {c c' : Cursor} {tok : Token} (h : c.next = (.token tok, c')) :
    c'.rest.length < c.rest.length :=
  Nat.lt_of_lt_of_le (length_rest_lt_of_here h) c.length_rest_skipBlanks_le

/-! ## The stream of readings -/

/-- All there is to read from a cursor on. -/
def stream (c : Cursor) : TokenStream :=
  match _h : c.next with
  | (.eof, c') => .eof c'.start
  | (.invalid ch, c') => .invalid ch c'.start
  | (.token tok, c') => .token tok c'.start c'.stream
termination_by c.rest.length
decreasing_by exact length_rest_lt_of_next _h

theorem stream_of_eof {c c' : Cursor} (h : c.next = (.eof, c')) : c.stream = .eof c'.start := by
  rw [stream]
  split <;> simp_all

theorem stream_of_invalid {c c' : Cursor} {ch : Char} (h : c.next = (.invalid ch, c')) :
    c.stream = .invalid ch c'.start := by
  rw [stream]
  split <;> simp_all

theorem stream_of_token {c c' : Cursor} {tok : Token} (h : c.next = (.token tok, c')) :
    c.stream = .token tok c'.start c'.stream := by
  rw [stream]
  split <;> simp_all

end Cursor

/-- The readings of a stream with their places, its end included. -/
def TokenStream.readings : TokenStream → List (Reading × Nat)
  | .eof pos => [(.eof, pos)]
  | .invalid ch pos => [(.invalid ch, pos)]
  | .token tok start rest => (.token tok, start) :: rest.readings

end BlockLang
