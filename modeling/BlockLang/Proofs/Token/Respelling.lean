import BlockLang.Proofs.Token.Transcript
import BlockLang.Proofs.Token.Wording

set_option relaxedAutoImplicit false
set_option autoImplicit false

/-!
# Keywords spelt otherwise

A keyword may be written in upper and lower case. If only letters of keywords are changed, the text
is still read as the same tokens at the same places, but for the spelling of these keywords: a
letter stays a letter, so the words begin and end where they did.

## Main definitions

* `BlockLang.Recased` — a text with some letters in the other case.
* `BlockLang.Cursor.InKeyword` — a place lies in a keyword.
* `BlockLang.RespellsKeywords` — a text with letters of keywords in the other case.
* `BlockLang.Token.Respelt` — the same token, or the same keyword.
* `BlockLang.RespeltWording` — two stretches of text with the same tokens up to spelling.

## Main results

* `BlockLang.Wording.recased` — a stretch of text with letters of keywords in the other case.
-/

namespace BlockLang

/-! ## Letters in the other case -/

/-- The second text is the first one, but at some of the given places a letter of ASCII is in the
other case. Places are counted from `pos` on. -/
inductive Recased (P : Nat → Prop) : Nat → List Char → List Char → Prop where
  | nil {pos : Nat} : Recased P pos [] []
  | same {pos : Nat} {c : Char} {cs cs' : List Char} (tail : Recased P (pos + 1) cs cs') :
      Recased P pos (c :: cs) (c :: cs')
  | letter {pos : Nat} {c c' : Char} {cs cs' : List Char} (hplace : P pos)
      (hcase : c'.toLower = c.toLower) (tail : Recased P (pos + 1) cs cs') :
      Recased P pos (c :: cs) (c' :: cs')

namespace Recased

variable {P Q : Nat → Prop} {pos : Nat} {cs cs' ds es : List Char}

lemma refl (P : Nat → Prop) (pos : Nat) (cs : List Char) : Recased P pos cs cs := by
  induction cs generalizing pos with
  | nil => exact .nil
  | cons c cs ih => exact .same (ih (pos + 1))

lemma length_eq (h : Recased P pos cs cs') : cs'.length = cs.length := by
  induction h with
  | nil => rfl
  | same _ ih | letter _ _ _ ih => rw [List.length_cons, List.length_cons, ih]

/-- But for the case the texts are the same. -/
lemma map_toLower (h : Recased P pos cs cs') : cs'.map Char.toLower = cs.map Char.toLower := by
  induction h with
  | nil => rfl
  | same _ ih => rw [List.map_cons, List.map_cons, ih]
  | letter _ hcase _ ih => rw [List.map_cons, List.map_cons, hcase, ih]

/-- Where all places may change any spelling will do. -/
lemma of_map_toLower (hP : ∀ i, pos ≤ i → i < pos + cs.length → P i)
    (h : cs'.map Char.toLower = cs.map Char.toLower) : Recased P pos cs cs' := by
  induction cs generalizing pos cs' with
  | nil =>
    obtain rfl : cs' = [] := by simpa using h
    exact .nil
  | cons c cs ih =>
    obtain ⟨c', cs', rfl, hc, hcs⟩ := List.map_eq_cons_iff.1 h
    simp only [List.length_cons] at hP
    exact .letter (hP pos (Nat.le_refl _) (by omega)) hc
      (ih (fun i hle hlt => hP i (by omega) (by omega)) hcs)

/-- Where no place may change the text stays as it is. -/
lemma eq_of_forall_not (h : Recased P pos cs cs')
    (hP : ∀ i, pos ≤ i → i < pos + cs.length → ¬ P i) : cs' = cs := by
  induction h with
  | nil => rfl
  | @same pos c cs cs' _ ih =>
    simp only [List.length_cons] at hP
    rw [ih fun i hle hlt => hP i (by omega) (by omega)]
  | @letter pos c c' cs cs' hplace _ _ _ =>
    simp only [List.length_cons] at hP
    exact absurd hplace (hP pos (Nat.le_refl _) (by omega))

/-- Only the places from `pos` on are of account. -/
lemma mono (h : Recased P pos cs cs') (hPQ : ∀ i, pos ≤ i → P i → Q i) : Recased Q pos cs cs' := by
  induction h with
  | nil => exact .nil
  | same _ ih => exact .same (ih fun i hle => hPQ i (by omega))
  | letter hplace hcase _ ih =>
    exact .letter (hPQ _ (Nat.le_refl _) hplace) hcase (ih fun i hle => hPQ i (by omega))

lemma append (h : Recased P pos cs cs') (h' : Recased P (pos + cs.length) ds es) :
    Recased P pos (cs ++ ds) (cs' ++ es) := by
  induction h with
  | nil => simpa using h'
  | @same pos c cs cs' _ ih =>
    exact .same (ih (by simpa [Nat.add_right_comm, Nat.add_assoc] using h'))
  | @letter pos c c' cs cs' hplace hcase _ ih =>
    exact .letter hplace hcase (ih (by simpa [Nat.add_right_comm, Nat.add_assoc] using h'))

/-- The parts of a text are recased each by itself. -/
lemma exists_append (h : Recased P pos (cs ++ ds) es) :
    ∃ cs' ds', es = cs' ++ ds' ∧ Recased P pos cs cs' ∧ Recased P (pos + cs.length) ds ds' := by
  induction cs generalizing pos es with
  | nil => exact ⟨[], es, rfl, .nil, by simpa using h⟩
  | cons c cs ih =>
    cases h with
    | same tail =>
      obtain ⟨cs', ds', rfl, hcs, hds⟩ := ih tail
      refine ⟨c :: cs', ds', rfl, .same hcs, ?_⟩
      rwa [List.length_cons, Nat.add_comm cs.length, ← Nat.add_assoc]
    | @letter _ _ c' _ _ hplace hcase tail =>
      obtain ⟨cs', ds', rfl, hcs, hds⟩ := ih tail
      refine ⟨c' :: cs', ds', rfl, .letter hplace hcase hcs, ?_⟩
      rwa [List.length_cons, Nat.add_comm cs.length, ← Nat.add_assoc]

end Recased

/-! ## Case and the classes of characters -/

/-- A class of characters that within ASCII does not tell upper from lower case never does. -/
lemma apply_toLower {p : Char → Bool}
    (hp : ∀ n < 128, p (Char.ofNat n).toLower = p (Char.ofNat n)) (c : Char) :
    p c.toLower = p c := by
  by_cases hc : c.toNat < 128
  · exact of_ascii (fun c => p c.toLower = p c) hp hc
  · have hlower : c.toLower = c := by
      unfold Char.toLower
      rw [dif_neg]
      rintro ⟨-, hle⟩
      have hle' : c.toNat ≤ 90 := hle
      omega
    rw [hlower]

lemma isLetter_congr {c c' : Char} (h : c'.toLower = c.toLower) : isLetter c' = isLetter c := by
  have hlower := apply_toLower (p := isLetter) (by decide +kernel)
  rw [← hlower c', h, hlower c]

lemma isWordChar_congr {c c' : Char} (h : c'.toLower = c.toLower) :
    isWordChar c' = isWordChar c := by
  have hlower := apply_toLower (p := isWordChar) (by decide +kernel)
  rw [← hlower c', h, hlower c]

lemma isDigit_congr {c c' : Char} (h : c'.toLower = c.toLower) : c'.isDigit = c.isDigit := by
  have hlower := apply_toLower (p := Char.isDigit) (by decide +kernel)
  rw [← hlower c', h, hlower c]

namespace Token.Kind

lemma continues_congr (kind : Kind) {c c' : Char} (h : c'.toLower = c.toLower) :
    kind.continues c' = kind.continues c := by
  cases kind with
  | integer => exact isDigit_congr h
  | identifier => exact isWordChar_congr h
  | _ => rfl

/-- A word ends before a text whatever the case of its letters. -/
lemma EndsBefore.recased {kind : Kind} {P : Nat → Prop} {pos : Nat} {rest rest' : List Char}
    (h : kind.EndsBefore rest) (hrest : Recased P pos rest rest') : kind.EndsBefore rest' := by
  cases hrest with
  | nil => exact h
  | same => exact h
  | letter _ hcase =>
    intro d hd
    obtain rfl := Option.some.inj hd
    rw [kind.continues_congr hcase]
    exact h _ rfl

/-- A name is a name whatever the case of its letters. -/
lemma spells_identifier_of_map_toLower {cs cs' : List Char} (h : identifier.Spells cs)
    (hcs : cs'.map Char.toLower = cs.map Char.toLower) : identifier.Spells cs' := by
  obtain ⟨c, ds, rfl, hletter, hword⟩ := h
  obtain ⟨c', ds', rfl, hc, hds⟩ := List.map_eq_cons_iff.1 hcs
  refine ⟨c', ds', rfl, by rw [isLetter_congr hc, hletter], fun d' hd' => ?_⟩
  have hmem : d'.toLower ∈ ds.map Char.toLower := hds ▸ List.mem_map_of_mem hd'
  obtain ⟨d, hd, hcase⟩ := List.mem_map.1 hmem
  rw [isWordChar_congr hcase.symm, hword d hd]

end Token.Kind

/-! ## Keywords in a text -/

namespace Token

/-- The words that are keywords, however they are spelt. -/
def keywords : List String :=
  ["BEGIN", "END"]

/-- The token spells a keyword. -/
def SpellsKeyword (t : Token) : Prop :=
  ∃ keyword ∈ keywords, t.isKeyword keyword = true

/-- The tokens are the same, or they spell the same keyword. -/
inductive Respelt : Token → Token → Prop where
  | refl (t : Token) : Respelt t t
  | keyword {t t' : Token} {keyword : String} (hmem : keyword ∈ keywords)
      (h : t.isKeyword keyword = true) (h' : t'.isKeyword keyword = true) : Respelt t t'

/-- A keyword stays the same keyword in the other case. -/
lemma isKeyword_of_map_toLower {chars chars' : List Char} {keyword : String}
    (hchars : chars'.map Char.toLower = chars.map Char.toLower)
    (h : (ofChars .identifier chars).isKeyword keyword = true) :
    (ofChars .identifier chars').isKeyword keyword = true := by
  simpa [isKeyword, foldCase, hchars] using h

end Token

namespace Cursor

/-- The place lies in a word that readings from the cursor on find and that spells a keyword. -/
def InKeyword (c : Cursor) (i : Nat) : Prop :=
  ∃ n tok start, (.token tok, start) ∈ c.readings n ∧ tok.SpellsKeyword ∧ start ≤ i ∧
    i < start + tok.text.length

lemma readings_eq_of_next {c c' : Cursor} (h : c.next = c'.next) (n : Nat) :
    c.readings n = c'.readings n := by
  cases n with
  | zero => rfl
  | succ n => rw [readings, readings, h]

lemma InKeyword.of_next {c c' : Cursor} {i : Nat} (h : c.InKeyword i) (hnext : c.next = c'.next) :
    c'.InKeyword i := by
  obtain ⟨n, tok, start, hmem, hi⟩ := h
  exact ⟨n, tok, start, readings_eq_of_next hnext n ▸ hmem, hi⟩

lemma InKeyword.pos_le {c : Cursor} {i : Nat} (h : c.InKeyword i) : c.pos ≤ i := by
  obtain ⟨n, tok, start, hmem, -, hle, -⟩ := h
  exact Nat.le_trans (le_of_mem_readings hmem) hle

variable {bs chars rest : List Char} {pos start i : Nat}

/-- No keyword stands in blanks. -/
lemma InKeyword.of_blanks (hbs : Blanks bs) (h : InKeyword ⟨bs ++ rest, pos, start⟩ i) :
    InKeyword ⟨rest, pos + bs.length, 0⟩ i := by
  refine h.of_next ?_
  simp only [next, skipBlanks, List.takeWhile_append_of_pos hbs, List.dropWhile_append_of_pos hbs,
    List.length_append, Nat.add_assoc]

/-- A keyword is the word at hand or one of those after it. -/
lemma InKeyword.of_word {kind : Token.Kind} (hspells : kind.Spells chars)
    (hends : kind.EndsBefore rest) (h : InKeyword ⟨chars ++ rest, pos, start⟩ i) :
    (i < pos + chars.length ∧ (Token.ofChars kind chars).SpellsKeyword) ∨
      InKeyword ⟨rest, pos + chars.length, 0⟩ i := by
  obtain ⟨n, tok, place, hmem, htok, hle, hlt⟩ := h
  have hnext := next_word pos start blanks_nil hspells hends
  simp only [List.nil_append, List.length_nil, Nat.add_zero] at hnext
  cases n with
  | zero => cases hmem
  | succ n =>
    rw [readings, hnext] at hmem
    rcases List.mem_cons.1 hmem with hfirst | hmem
    · obtain ⟨htoken, rfl⟩ := Prod.mk.inj hfirst
      obtain rfl := Reading.token.inj htoken
      exact Or.inl ⟨by simpa using hlt, htok⟩
    · have hlater : InKeyword ⟨rest, pos + chars.length, pos⟩ i :=
        ⟨n, tok, place, hmem, htok, hle, hlt⟩
      exact Or.inr (hlater.of_next rfl)

/-- No keyword is found from a character on that begins no word, as the cursor stays there. -/
lemma not_inKeyword_invalid {ch : Char} (hblank : isBlank ch = false)
    (hno : BeginsNoWord (ch :: rest)) : ¬ InKeyword ⟨ch :: rest, pos, start⟩ i := by
  intro h
  have hhere : InKeyword ⟨ch :: rest, pos, pos⟩ i := h.of_next rfl
  obtain ⟨n, tok, place, hmem, -⟩ := hhere
  have hstays := next_invalid pos pos blanks_nil hblank hno
  cases eq_of_mem_readings hstays hmem

end Cursor

/-- The second text is the first one with letters of keywords in the other case. -/
def RespellsKeywords (text text' : String) : Prop :=
  Recased (Cursor.ofText text).InKeyword 0 text.toList text'.toList

/-- A keyword of a text may be put in any case. -/
lemma Recased.keyword {c : Cursor} (n : Nat) {pos : Nat} (tok : Token) {chars' : List Char}
    (h : (.token tok, pos) ∈ c.readings n) (htok : tok.SpellsKeyword)
    (hchars : chars'.map Char.toLower = tok.text.toList.map Char.toLower) :
    Recased c.InKeyword pos tok.text.toList chars' :=
  .of_map_toLower (fun _ hle hlt => ⟨n, tok, pos, h, htok, hle, hlt⟩) hchars

/-! ## Texts with the same tokens up to spelling -/

/-- Two stretches of text, as long as each other and each before a text of its own, are read as the
same tokens but for the spelling of keywords. -/
structure RespeltWording (rest rest' cs cs' : List Char) (pairs : List (Token × Token)) : Prop where
  length_eq : cs'.length = cs.length
  wording : Wording rest cs (pairs.map Prod.fst)
  wording' : Wording rest' cs' (pairs.map Prod.snd)
  respelt : ∀ q ∈ pairs, q.1.Respelt q.2

/-- A word with letters of keywords in the other case: a keyword is still the same keyword, and any
other word has not changed. -/
lemma Token.Kind.Spells.recased {kind : Token.Kind} {chars chars' rest : List Char} {pos : Nat}
    (hspells : kind.Spells chars) (hends : kind.EndsBefore rest)
    (h : Recased (Cursor.InKeyword ⟨chars ++ rest, pos, 0⟩) pos chars chars') :
    kind.Spells chars' ∧ (Token.ofChars kind chars).Respelt (.ofChars kind chars') := by
  by_cases hkeyword : (Token.ofChars kind chars).SpellsKeyword
  · obtain ⟨keyword, hmem, hkeyword⟩ := hkeyword
    obtain rfl : kind = .identifier := by
      simp only [Token.isKeyword, Bool.and_eq_true, beq_iff_eq] at hkeyword
      exact hkeyword.1
    exact ⟨spells_identifier_of_map_toLower hspells h.map_toLower,
      .keyword hmem hkeyword (Token.isKeyword_of_map_toLower h.map_toLower hkeyword)⟩
  · have hsame : chars' = chars := by
      refine h.eq_of_forall_not fun i _ hlt hi => ?_
      rcases hi.of_word hspells hends with ⟨-, hspells'⟩ | hlater
      · exact hkeyword hspells'
      · exact absurd hlater.pos_le (by simpa using hlt)
    rw [hsame]
    exact ⟨hspells, .refl _⟩

/-- **A stretch with letters of keywords in the other case** is read as the same tokens, but for the
spelling of these keywords.

**Proof sketch.** Induction on the stretch. Blanks have not changed; a word has changed at most if
it is a keyword, and it still ends where it did. -/
theorem Wording.recased {rest cs cs' : List Char} {toks : List Token} (h : Wording rest cs toks)
    {pos start : Nat}
    (hcs : Recased (Cursor.InKeyword ⟨cs ++ rest, pos, start⟩) pos (cs ++ rest) cs') :
    ∃ ds rest' pairs, cs' = ds ++ rest' ∧ toks = pairs.map Prod.fst ∧
      RespeltWording rest rest' cs ds pairs ∧
      Recased (Cursor.InKeyword ⟨rest, pos + cs.length, 0⟩) (pos + cs.length) rest rest' := by
  induction h generalizing pos start cs' with
  | @blanks bs hbs =>
    have hafter := hcs.mono fun i _ hi => hi.of_blanks hbs
    obtain ⟨ds, rest', rfl, hds, hrest⟩ := hafter.exists_append
    obtain rfl : ds = bs := hds.eq_of_forall_not fun i _ hlt hi =>
      absurd hi.pos_le (by simpa using hlt)
    exact ⟨ds, rest', [], rfl, rfl, ⟨rfl, .blanks hbs, .blanks hbs, by simp⟩, hrest⟩
  | @word bs chars cs kind toks hbs hspells hends tail ih =>
    simp only [List.append_assoc] at hcs
    have hafter := hcs.mono fun i _ hi => hi.of_blanks hbs
    obtain ⟨ds, es, rfl, hds, hes⟩ := hafter.exists_append
    obtain rfl : ds = bs := hds.eq_of_forall_not fun i _ hlt hi =>
      absurd hi.pos_le (by simpa using hlt)
    obtain ⟨chars', es, rfl, hchars, hes⟩ := hes.exists_append
    have hlater : Recased (Cursor.InKeyword ⟨cs ++ rest, pos + ds.length + chars.length, 0⟩)
        (pos + ds.length + chars.length) (cs ++ rest) es := by
      refine hes.mono fun i hle hi => ?_
      exact (hi.of_word hspells hends).resolve_left fun h => absurd h.1 (by omega)
    obtain ⟨hspells', hrespelt⟩ := hspells.recased hends hchars
    obtain ⟨cs', rest', pairs, rfl, rfl, hwording, hrest⟩ := ih hlater
    refine ⟨ds ++ (chars' ++ cs'), rest', (.ofChars kind chars, .ofChars kind chars') :: pairs,
      by simp, rfl, ⟨?_, ?_, ?_, ?_⟩, ?_⟩
    · simp [hchars.length_eq, hwording.length_eq]
    · exact .word hbs hspells hends hwording.wording
    · exact .word hbs hspells' (hends.recased hlater) hwording.wording'
    · exact List.forall_mem_cons.2 ⟨hrespelt, hwording.respelt⟩
    · simpa [Nat.add_assoc] using hrest

end BlockLang
