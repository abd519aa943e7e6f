import BlockLang.Proofs.Grammar.Derivation
import BlockLang.Proofs.Token.Wording

set_option relaxedAutoImplicit false
set_option autoImplicit false

/-!
# Pieces of text

Text is written piece by piece. A piece that is followed by a character at which every word ends is
read in the same way whatever comes later, so pieces can be put together in any number.

## Main definitions

* `BlockLang.EndsWords` — every word ends before the text.
* `BlockLang.Writes` — a piece of text is read as certain tokens wherever words end after it.

## Main results

* `BlockLang.Wording.writes` — a stretch of text is a piece.
* `BlockLang.Writes.append` — pieces, one after the other.
* `BlockLang.Writes.word` — a piece that is a word.
* `BlockLang.Writes.symbol` — a symbol before a piece.
-/

namespace BlockLang

/-- Words end before the text: it does not begin with a word character. -/
def EndsWords (cs : List Char) : Prop :=
  ∀ c ∈ cs.head?, isWordChar c = false

@[simp] lemma endsWords_nil : EndsWords [] := by
  simp [EndsWords]

/-- Words end before a blank, a closing bracket, a semicolon, a period and a minus sign. -/
lemma endsWords_cons {c : Char} (cs : List Char) (hc : c ∈ [' ', ')', ';', '.', '-']) :
    EndsWords (c :: cs) := by
  have hall : ∀ d ∈ [' ', ')', ';', '.', '-'], isWordChar d = false := by
    simp [isWordChar_eq_isAlphanum_or]
  simpa [EndsWords] using hall c hc

lemma EndsWords.append {cs rest : List Char} (h : EndsWords cs) (hrest : EndsWords rest) :
    EndsWords (cs ++ rest) := by
  cases cs with
  | nil => exact hrest
  | cons c cs => exact h

/-- A symbol of the grammar is a word, and it never goes on. -/
lemma Terminal.spells_of_symbol? {x : Terminal} {kind : Token.Kind} {text : String}
    (hx : x.symbol? = some (kind, text)) :
    kind.Spells text.toList ∧ ∀ rest, kind.EndsBefore rest := by
  cases x with
  | operator op =>
    simp only [symbol?, Option.some.injEq, Prod.mk.injEq] at hx
    obtain ⟨rfl, rfl⟩ := hx
    refine ⟨?_, fun rest c hc => rfl⟩
    cases op <;> simp [Token.Kind.Spells, BinaryOp.symbol]
  | assign | semicolon | period | openBracket | closeBracket =>
    simp only [symbol?, Option.some.injEq, Prod.mk.injEq] at hx
    obtain ⟨rfl, rfl⟩ := hx
    refine ⟨?_, fun rest c hc => rfl⟩
    simp [Token.Kind.Spells]
  | integer | blockBegin | blockEnd | name | other => simp [symbol?] at hx

/-- The piece of text is read as the tokens wherever words end after it. -/
def Writes (cs : List Char) (toks : List Token) : Prop :=
  ∀ rest, EndsWords rest → Wording rest cs toks

/-- What is read as some tokens in one place is so wherever words end after it. -/
lemma Wording.writes {rest cs : List Char} {toks : List Token} (h : Wording rest cs toks) :
    Writes cs toks :=
  fun _ hrest' => h.of_rest fun _ _ => Token.Kind.endsBefore_of_isWordChar_eq_false hrest'

namespace Writes

variable {cs cs' : List Char} {toks toks' : List Token} {kind : Token.Kind}

lemma nil : Writes [] [] :=
  fun _ _ => .nil

lemma word (h : kind.Spells cs) : Writes cs [.ofChars kind cs] :=
  fun _ hrest => .single h (Token.Kind.endsBefore_of_isWordChar_eq_false hrest)

/-- Two pieces, where words end before the second one. -/
lemma append (h : Writes cs toks) (hends : EndsWords cs') (h' : Writes cs' toks') :
    Writes (cs ++ cs') (toks ++ toks') :=
  fun rest hrest => (h _ (hends.append hrest)).append (h' rest hrest)

lemma blank (h : Writes cs toks) : Writes (' ' :: cs) toks :=
  fun rest hrest => .blanks_append blanks_space (h rest hrest)

/-- A symbol ends wherever it stands. -/
lemma symbol {x : Terminal} {text : String} (hx : x.symbol? = some (kind, text))
    (h : Writes cs toks) : Writes (text.toList ++ cs) (.ofChars kind text.toList :: toks) := by
  obtain ⟨hspells, hends⟩ := Terminal.spells_of_symbol? hx
  exact fun rest hrest => (Wording.single hspells (hends _)).append (h rest hrest)

end Writes

namespace Token

lemma is_ofChars (kind : Kind) (text : String) :
    (ofChars kind text.toList).is kind text = true := by
  simp [is_eq_true_iff]

lemma isKeyword_ofChars (name keyword : String) :
    (ofChars .identifier name.toList).isKeyword keyword =
      (foldCase name == foldCase keyword) := by
  simp [isKeyword]

/-- A name other than a keyword, however that is spelt. -/
lemma isKeyword_ofChars_eq_false {name keyword : String} (h : foldCase name ≠ foldCase keyword) :
    (ofChars .identifier name.toList).isKeyword keyword = false := by
  simpa [isKeyword_ofChars] using h

/-- A keyword written in upper case. -/
lemma isKeyword_self (keyword : String) :
    (ofChars .identifier keyword.toList).isKeyword keyword = true := by
  simp [isKeyword_ofChars]

namespace Kind

lemma spells_begin : identifier.Spells "BEGIN".toList :=
  spells_of_isAlpha (by simp) (by simp)

lemma spells_end : identifier.Spells "END".toList :=
  spells_of_isAlpha (by simp) (by simp)

end Kind

end Token

end BlockLang
