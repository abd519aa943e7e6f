import BlockLang.Token.Cursor
import Mathlib.Data.List.TakeWhile
import Mathlib.Tactic.Common

set_option relaxedAutoImplicit false
set_option autoImplicit false

/-!
# Words, apart from how they are found

Which characters make a word of which kind, and where a word ends, is said here without the search
for the first word of a text. The search finds a word exactly if it is one that does not go on in
the text after it.

## Main definitions

* `BlockLang.Token.Kind.Spells` — the characters make a word of the kind.
* `BlockLang.Token.Kind.EndsBefore` — a word of the kind does not go on in a text.
* `BlockLang.BeginsNoWord` — no word stands at the head of a text.

## Main results

* `BlockLang.Lexeme.first?_eq_some_iff` — the search finds the words that do not go on.
* `BlockLang.Lexeme.first?_eq_none_iff` — it finds none exactly where none stands.
-/

namespace BlockLang

namespace Token.Kind

/-- The characters make a word of the kind: an integer has digits only, a name begins with a letter
and goes on with word characters, and of the symbols each kind has its own. -/
def Spells (kind : Kind) (chars : List Char) : Prop :=
  match kind with
  | integer => chars ≠ [] ∧ ∀ c ∈ chars, c.isDigit = true
  | identifier => ∃ c cs, chars = c :: cs ∧ isLetter c = true ∧ ∀ d ∈ cs, isWordChar d = true
  | operator => chars = ['+'] ∨ chars = ['-'] ∨ chars = ['*'] ∨ chars = ['/']
  | sign => chars = [':', '='] ∨ chars = [';'] ∨ chars = ['.']
  | bracket => chars = ['('] ∨ chars = [')']
  | eof => False

/-- Whether a word of the kind goes on with a character. -/
def continues : Kind → Char → Bool
  | integer, c => c.isDigit
  | identifier, c => isWordChar c
  | _, _ => false

/-- A word of the kind does not go on in the text. -/
def EndsBefore (kind : Kind) (rest : List Char) : Prop :=
  ∀ c ∈ rest.head?, kind.continues c = false

@[simp] lemma endsBefore_nil (kind : Kind) : kind.EndsBefore [] := by
  simp [EndsBefore]

lemma endsBefore_of_head? {kind : Kind} {rest rest' : List Char} (h : rest.head? = rest'.head?)
    (hends : kind.EndsBefore rest) : kind.EndsBefore rest' := by
  rwa [EndsBefore, ← h]

/-- No word goes on with a character that is not a word character. -/
lemma continues_eq_false {kind : Kind} {c : Char} (h : isWordChar c = false) :
    kind.continues c = false := by
  cases kind with
  | integer =>
    by_contra hdigit
    rw [isWordChar_of_isDigit (by simpa [continues] using hdigit)] at h
    exact absurd h (by decide)
  | identifier => exact h
  | _ => rfl

lemma endsBefore_of_isWordChar_eq_false {kind : Kind} {rest : List Char}
    (h : ∀ c ∈ rest.head?, isWordChar c = false) : kind.EndsBefore rest :=
  fun c hc => continues_eq_false (h c hc)

lemma isWordChar_eq_false_of_isBlank {c : Char} (h : isBlank c = true) : isWordChar c = false := by
  by_contra hword
  rw [isBlank_eq_false_of_isWordChar (by simpa using hword)] at h
  exact absurd h (by decide)

/-- Every word ends before a blank. -/
lemma endsBefore_of_isBlank {kind : Kind} {b : Char} (rest : List Char) (h : isBlank b = true) :
    kind.EndsBefore (b :: rest) :=
  endsBefore_of_isWordChar_eq_false (by simpa using isWordChar_eq_false_of_isBlank h)

/-- No symbol is a blank. -/
lemma isBlank_symbol :
    isBlank '+' = false ∧ isBlank '-' = false ∧ isBlank '*' = false ∧ isBlank '/' = false ∧
    isBlank ':' = false ∧ isBlank '=' = false ∧ isBlank ';' = false ∧ isBlank '.' = false ∧
    isBlank '(' = false ∧ isBlank ')' = false := by
  decide +kernel

/-- Letters of ASCII make a name. -/
lemma spells_of_isAlpha {chars : List Char} (hne : chars ≠ [])
    (h : ∀ c ∈ chars, c.isAlpha = true) : identifier.Spells chars := by
  obtain ⟨c, cs, rfl⟩ := List.exists_cons_of_ne_nil hne
  rw [List.forall_mem_cons] at h
  exact ⟨c, cs, rfl, isLetter_of_isAlpha h.1,
    fun d hd => isWordChar_of_isLetter (isLetter_of_isAlpha (h.2 d hd))⟩

/-- A word is not empty and does not begin with a blank. -/
lemma Spells.eq_cons {kind : Kind} {chars : List Char} (h : kind.Spells chars) :
    ∃ c cs, chars = c :: cs ∧ isBlank c = false := by
  cases kind with
  | integer =>
    obtain ⟨hne, hdigits⟩ := h
    obtain ⟨c, cs, rfl⟩ := List.exists_cons_of_ne_nil hne
    exact ⟨c, cs, rfl,
      isBlank_eq_false_of_isWordChar (isWordChar_of_isDigit (hdigits c List.mem_cons_self))⟩
  | identifier =>
    obtain ⟨c, cs, rfl, hletter, -⟩ := h
    exact ⟨c, cs, rfl, isBlank_eq_false_of_isWordChar (isWordChar_of_isLetter hletter)⟩
  | operator => rcases h with rfl | rfl | rfl | rfl <;> simp [isBlank_symbol]
  | sign => rcases h with rfl | rfl | rfl <;> simp [isBlank_symbol]
  | bracket => rcases h with rfl | rfl <;> simp [isBlank_symbol]
  | eof => exact h.elim

lemma Spells.ne_nil {kind : Kind} {chars : List Char} (h : kind.Spells chars) : chars ≠ [] := by
  obtain ⟨c, cs, rfl, -⟩ := h.eq_cons
  exact List.cons_ne_nil c cs

/-- No blank stands within a word. -/
lemma Spells.isBlank_eq_false {kind : Kind} {chars : List Char} (h : kind.Spells chars) :
    ∀ c ∈ chars, isBlank c = false := by
  cases kind with
  | integer =>
    intro c hc
    exact isBlank_eq_false_of_isWordChar (isWordChar_of_isDigit (h.2 c hc))
  | identifier =>
    obtain ⟨c, cs, rfl, hletter, hword⟩ := h
    intro d hd
    rcases List.mem_cons.1 hd with rfl | hd
    · exact isBlank_eq_false_of_isWordChar (isWordChar_of_isLetter hletter)
    · exact isBlank_eq_false_of_isWordChar (hword d hd)
  | operator => rcases h with rfl | rfl | rfl | rfl <;> simp [isBlank_symbol]
  | sign => rcases h with rfl | rfl | rfl <;> simp [isBlank_symbol]
  | bracket => rcases h with rfl | rfl <;> simp [isBlank_symbol]
  | eof => exact h.elim

/-- A word goes on with the characters that it may go on with. -/
lemma Spells.append {kind : Kind} {chars cs : List Char} (h : kind.Spells chars)
    (hcs : ∀ c ∈ cs, kind.continues c = true) : kind.Spells (chars ++ cs) := by
  cases kind with
  | integer =>
    refine ⟨List.append_ne_nil_of_left_ne_nil h.1 cs, fun c hc => ?_⟩
    exact (List.mem_append.1 hc).elim (h.2 c) (hcs c)
  | identifier =>
    obtain ⟨c, ds, rfl, hletter, hword⟩ := h
    exact ⟨c, ds ++ cs, rfl, hletter, fun d hd => (List.mem_append.1 hd).elim (hword d) (hcs d)⟩
  | operator | sign | bracket | eof =>
    obtain rfl : cs = [] := List.eq_nil_iff_forall_not_mem.2 fun c hc => by
      simpa [continues] using hcs c hc
    rwa [List.append_nil]

/-- A word ends where the characters do that it may go on with. -/
lemma endsBefore_dropWhile (kind : Kind) (rest : List Char) :
    kind.EndsBefore (rest.dropWhile kind.continues) := by
  intro c hc
  have hnot := List.head?_dropWhile_not kind.continues rest
  rwa [hc] at hnot

/-- The kind of a single symbol spells it. -/
lemma spells_of_ofSymbol? {c : Char} {kind : Kind} (h : ofSymbol? c = some kind) :
    kind.Spells [c] ∧ ∀ rest, kind.EndsBefore rest := by
  unfold ofSymbol? at h
  split at h
  case h_9 => cases h
  all_goals
    obtain rfl := Option.some.inj h
    simp [Spells, EndsBefore, continues]

end Token.Kind

/-- No word stands at the head of a text. -/
def BeginsNoWord (cs : List Char) : Prop :=
  ∀ (kind : Token.Kind) (chars : List Char), kind.Spells chars → ¬ chars <+: cs

namespace Lexeme

open Token.Kind

/-- A run of characters of a class is cut off where the class is left. -/
lemma takeWhile_append_of_head? {p : Char → Bool} {cs rest : List Char}
    (hcs : ∀ c ∈ cs, p c = true) (hrest : ∀ c ∈ rest.head?, p c = false) :
    (cs ++ rest).takeWhile p = cs ∧ (cs ++ rest).dropWhile p = rest := by
  rw [List.takeWhile_append_of_pos hcs, List.dropWhile_append_of_pos hcs]
  cases rest with
  | nil => simp
  | cons c rest => simp [hrest c rfl]

/-- Runs of characters of a class are the same if the texts are that they are cut off from. -/
lemma append_inj_of_head? {p : Char → Bool} {cs cs' rest rest' : List Char}
    (hcs : ∀ c ∈ cs, p c = true) (hcs' : ∀ c ∈ cs', p c = true)
    (hrest : ∀ c ∈ rest.head?, p c = false) (hrest' : ∀ c ∈ rest'.head?, p c = false)
    (h : cs ++ rest = cs' ++ rest') : cs = cs' ∧ rest = rest' := by
  obtain ⟨htake, hdrop⟩ := takeWhile_append_of_head? hcs hrest
  obtain ⟨htake', hdrop'⟩ := takeWhile_append_of_head? hcs' hrest'
  exact ⟨by rw [← htake, h, htake'], by rw [← hdrop, h, hdrop']⟩

/-- What the search finds is a word that does not go on. -/
lemma spells_of_first? {cs : List Char} {w : Lexeme} (h : first? cs = some w) :
    w.kind.Spells w.chars ∧ w.kind.EndsBefore w.rest := by
  fun_cases first? cs with
  | case1 => simp [first?] at h
  | case2 cs =>
    simp only [first?, Option.some.injEq] at h
    subst h
    exact ⟨Or.inl rfl, by simp [EndsBefore, continues]⟩
  | case3 c cs hne hdigit =>
    simp only [first?, hdigit, if_true, Option.some.injEq] at h
    subst h
    refine ⟨⟨List.cons_ne_nil _ _, fun d hd => ?_⟩, fun d hd => ?_⟩
    · rcases List.mem_cons.1 hd with rfl | hd
      · exact hdigit
      · exact List.mem_takeWhile_imp hd
    · have hnot := List.head?_dropWhile_not Char.isDigit cs
      rw [hd] at hnot
      exact hnot
  | case4 c cs hne hdigit hletter =>
    simp only [first?, hdigit, hletter, if_false, if_true, Option.some.injEq,
      Bool.false_eq_true] at h
    subst h
    refine ⟨⟨c, _, rfl, hletter, fun d hd => List.mem_takeWhile_imp hd⟩, fun d hd => ?_⟩
    have hnot := List.head?_dropWhile_not isWordChar cs
    rw [hd] at hnot
    exact hnot
  | case5 c cs hne hdigit hletter =>
    simp only [first?, hdigit, hletter, if_false, Bool.false_eq_true, Option.map_eq_some_iff] at h
    obtain ⟨kind, hkind, rfl⟩ := h
    obtain ⟨hspells, hends⟩ := spells_of_ofSymbol? hkind
    exact ⟨hspells, hends cs⟩

lemma first?_cons {c : Char} (cs : List Char) (h : c ≠ ':') :
    first? (c :: cs) =
      if c.isDigit then
        some ⟨.integer, c :: cs.takeWhile Char.isDigit, cs.dropWhile Char.isDigit⟩
      else if isLetter c then
        some ⟨.identifier, c :: cs.takeWhile isWordChar, cs.dropWhile isWordChar⟩
      else
        (Token.Kind.ofSymbol? c).map fun kind => ⟨kind, [c], cs⟩ := by
  rw [first?]
  intro cs' hc
  exact absurd hc h

/-- No symbol is a letter. -/
lemma isLetter_symbol :
    isLetter '+' = false ∧ isLetter '-' = false ∧ isLetter '*' = false ∧ isLetter '/' = false ∧
    isLetter ';' = false ∧ isLetter '.' = false ∧ isLetter '(' = false ∧ isLetter ')' = false := by
  simp [isLetter_eq_isAlpha]

/-- A colon begins a word only together with the equals sign after it. -/
lemma first?_colon (cs : List Char) :
    first? (':' :: cs) =
      if cs.head? = some '=' then some ⟨.sign, [':', '='], cs.tail⟩ else none := by
  have hletter : isLetter ':' = false := isLetter_eq_isAlpha (by decide)
  split
  · next hhead =>
    obtain ⟨cs, rfl⟩ := List.head?_eq_some_iff.1 hhead
    rfl
  · next hhead =>
    rw [first?]
    · simp [hletter, Token.Kind.ofSymbol?]
    · rintro cs' - rfl
      exact hhead rfl

/-- A word that does not go on is found. -/
lemma first?_append {kind : Token.Kind} {chars rest : List Char} (hspells : kind.Spells chars)
    (hends : kind.EndsBefore rest) : first? (chars ++ rest) = some ⟨kind, chars, rest⟩ := by
  cases kind with
  | integer =>
    obtain ⟨hne, hdigits⟩ := hspells
    obtain ⟨c, cs, rfl⟩ := List.exists_cons_of_ne_nil hne
    have hc : c.isDigit = true := hdigits c List.mem_cons_self
    have hcolon : c ≠ ':' := by
      rintro rfl
      exact absurd hc (by decide)
    have hcs : ∀ d ∈ cs, d.isDigit = true := fun d hd => hdigits d (List.mem_cons_of_mem c hd)
    have hrest : ∀ d ∈ rest.head?, d.isDigit = false := hends
    obtain ⟨htake, hdrop⟩ := takeWhile_append_of_head? hcs hrest
    rw [List.cons_append, first?_cons _ hcolon, if_pos hc, htake, hdrop]
  | identifier =>
    obtain ⟨c, cs, rfl, hletter, hword⟩ := hspells
    have hdigit : ¬ c.isDigit = true := fun hc =>
      absurd hletter (by simp [isLetter_eq_false_of_isDigit hc])
    have hcolon : c ≠ ':' := by
      rintro rfl
      simp [isLetter_eq_isAlpha] at hletter
    have hrest : ∀ d ∈ rest.head?, isWordChar d = false := hends
    obtain ⟨htake, hdrop⟩ := takeWhile_append_of_head? hword hrest
    rw [List.cons_append, first?_cons _ hcolon, if_neg hdigit, if_pos hletter, htake, hdrop]
  | operator =>
    rcases hspells with rfl | rfl | rfl | rfl <;>
      simp [first?_cons, isLetter_symbol, Token.Kind.ofSymbol?]
  | sign =>
    rcases hspells with rfl | rfl | rfl
    · rfl
    · simp [first?_cons, isLetter_symbol, Token.Kind.ofSymbol?]
    · simp [first?_cons, isLetter_symbol, Token.Kind.ofSymbol?]
  | bracket =>
    rcases hspells with rfl | rfl <;>
      simp [first?_cons, isLetter_symbol, Token.Kind.ofSymbol?]
  | eof => exact hspells.elim

/-- **The first word.** The search finds a word exactly if the text is that word and a rest in which
the word does not go on. -/
theorem first?_eq_some_iff {cs : List Char} {w : Lexeme} :
    first? cs = some w ↔
      w.kind.Spells w.chars ∧ w.kind.EndsBefore w.rest ∧ w.chars ++ w.rest = cs := by
  constructor
  · intro h
    obtain ⟨hspells, hends⟩ := spells_of_first? h
    exact ⟨hspells, hends, chars_append_rest h⟩
  · rintro ⟨hspells, hends, rfl⟩
    exact first?_append hspells hends

/-- Where a word stands the search finds one, if perhaps a longer one. -/
lemma first?_ne_none_of_spells {kind : Token.Kind} {chars rest : List Char}
    (hspells : kind.Spells chars) : first? (chars ++ rest) ≠ none := by
  have hlong : kind.Spells (chars ++ rest.takeWhile kind.continues) :=
    hspells.append fun _ hc => List.mem_takeWhile_imp hc
  have hsplit : chars ++ rest =
      (chars ++ rest.takeWhile kind.continues) ++ rest.dropWhile kind.continues := by
    rw [List.append_assoc, List.takeWhile_append_dropWhile]
  rw [hsplit, first?_append hlong (endsBefore_dropWhile kind rest)]
  simp

/-- **No first word.** The search fails exactly if no word stands at the head of the text. -/
theorem first?_eq_none_iff {cs : List Char} : first? cs = none ↔ BeginsNoWord cs := by
  constructor
  · rintro h kind chars hspells ⟨rest, rfl⟩
    exact first?_ne_none_of_spells hspells h
  · intro h
    by_contra hne
    obtain ⟨w, hw⟩ := Option.ne_none_iff_exists'.1 hne
    obtain ⟨hspells, -, hcs⟩ := first?_eq_some_iff.1 hw
    exact h w.kind w.chars hspells ⟨w.rest, hcs⟩

end Lexeme

/-- Whether a word stands at the head of a text is decided by two characters. -/
lemma BeginsNoWord.of_head? {c : Char} {cs cs' : List Char} (h : cs.head? = cs'.head?)
    (hno : BeginsNoWord (c :: cs)) : BeginsNoWord (c :: cs') := by
  rw [← Lexeme.first?_eq_none_iff] at hno ⊢
  by_cases hcolon : c = ':'
  · subst hcolon
    rw [Lexeme.first?_colon] at hno ⊢
    rw [h] at hno
    split_ifs at hno ⊢
    rfl
  · rw [Lexeme.first?_cons _ hcolon] at hno ⊢
    split_ifs at hno ⊢
    simpa using hno

end BlockLang
