import BlockLang.Proofs.Token.Reading

set_option relaxedAutoImplicit false
set_option autoImplicit false

/-!
# Texts and the tokens they are read as

A stretch of text is read as a list of tokens in view of what follows it, as its last word must not
go on there. Stretches can be put together and taken apart, and what follows can be exchanged as
long as the last word still ends.

## Main definitions

* `BlockLang.Wording` — a stretch of text and the tokens it is read as.
* `BlockLang.Cursor.Lexes` — reading from a cursor on gives certain tokens and then the end.

## Main results

* `BlockLang.Wording.append`, `BlockLang.Wording.exists_split`,
  `BlockLang.Wording.exists_split_blank` — stretches put together and apart.
* `BlockLang.Wording.unique` — a stretch has one reading.
* `BlockLang.Wording.of_rest` — the text after a stretch exchanged.
* `BlockLang.exists_wording` — every text is a stretch, up to a character that begins no word.
* `BlockLang.Cursor.lexes_iff_wording` — a whole text and its tokens.
-/

namespace BlockLang

/-- `Wording rest cs toks`: where `rest` follows, the characters `cs` are read as `toks`, with
blanks between, before and after them. -/
inductive Wording (rest : List Char) : List Char → List Token → Prop where
  | blanks {bs : List Char} (hbs : Blanks bs) : Wording rest bs []
  | word {bs chars cs : List Char} {kind : Token.Kind} {toks : List Token} (hbs : Blanks bs)
      (hspells : kind.Spells chars) (hends : kind.EndsBefore (cs ++ rest))
      (tail : Wording rest cs toks) :
      Wording rest (bs ++ (chars ++ cs)) (.ofChars kind chars :: toks)

namespace Wording

variable {rest rest' cs cs' : List Char} {toks toks' : List Token}

lemma nil : Wording rest [] [] :=
  .blanks blanks_nil

/-- A single word. -/
lemma single {kind : Token.Kind} (hspells : kind.Spells cs) (hends : kind.EndsBefore rest) :
    Wording rest cs [.ofChars kind cs] := by
  have h := word blanks_nil hspells (by simpa using hends) nil
  simpa using h

lemma blanks_append {bs : List Char} (hbs : Blanks bs) (h : Wording rest cs toks) :
    Wording rest (bs ++ cs) toks := by
  cases h with
  | blanks hcs => exact .blanks (hbs.append hcs)
  | word hcs hspells hends tail =>
    rw [← List.append_assoc]
    exact .word (hbs.append hcs) hspells hends tail

/-- Two stretches, one after the other. -/
theorem append (h : Wording (cs' ++ rest) cs toks) (h' : Wording rest cs' toks') :
    Wording rest (cs ++ cs') (toks ++ toks') := by
  induction h with
  | blanks hbs => exact blanks_append hbs h'
  | word hbs hspells hends tail ih =>
    simp only [List.append_assoc, List.cons_append]
    exact .word hbs hspells (by rwa [List.append_assoc]) ih

/-- What follows a stretch may be exchanged if all words that end before the one text end before the
other. -/
theorem of_rest (hrest : ∀ kind : Token.Kind, kind.EndsBefore rest → kind.EndsBefore rest')
    (h : Wording rest cs toks) : Wording rest' cs toks := by
  induction h with
  | blanks hbs => exact .blanks hbs
  | @word bs chars cs kind toks hbs hspells hends tail ih =>
    refine .word hbs hspells ?_ ih
    -- Only the last word meets what follows the stretch.
    cases cs with
    | nil => exact hrest kind hends
    | cons c cs => exact Token.Kind.endsBefore_of_head? (by simp) hends

lemma of_head? (hhead : rest.head? = rest'.head?) (h : Wording rest cs toks) :
    Wording rest' cs toks :=
  h.of_rest fun _ hends => Token.Kind.endsBefore_of_head? hhead hends

/-- A blank may follow every stretch. -/
lemma before_blank {b : Char} (hb : isBlank b = true) (h : Wording rest cs toks) :
    Wording (b :: rest') cs toks :=
  h.of_rest fun _ _ => Token.Kind.endsBefore_of_isBlank rest' hb

/-- A stretch falls into the stretches of the parts of its tokens. -/
theorem exists_split {toks₁ toks₂ : List Token} (h : Wording rest cs (toks₁ ++ toks₂)) :
    ∃ cs₁ cs₂, cs = cs₁ ++ cs₂ ∧ Wording (cs₂ ++ rest) cs₁ toks₁ ∧ Wording rest cs₂ toks₂ := by
  induction toks₁ generalizing cs with
  | nil => exact ⟨[], cs, rfl, nil, h⟩
  | cons tok toks₁ ih =>
    cases h with
    | @word bs chars cs kind _ hbs hspells hends tail =>
      obtain ⟨cs₁, cs₂, rfl, h₁, h₂⟩ := ih tail
      refine ⟨bs ++ (chars ++ cs₁), cs₂, by simp, ?_, h₂⟩
      exact .word hbs hspells (by rwa [← List.append_assoc]) h₁

/-- A character that is not in the first part of a list is in the second part. -/
lemma exists_append_cons {chars cs₀ ds : List Char} {b : Char} (hb : b ∉ chars)
    (h : chars ++ cs₀ = cs ++ b :: ds) :
    ∃ cs₁, cs = chars ++ cs₁ ∧ cs₀ = cs₁ ++ b :: ds := by
  rcases List.append_eq_append_iff.1 h with ⟨cs₁, hcs, hcs₀⟩ | ⟨cs₁, hchars, hcs₀⟩
  · exact ⟨cs₁, hcs, hcs₀⟩
  · cases cs₁ with
    | nil => exact ⟨[], by simpa using hchars.symm, by simpa using hcs₀.symm⟩
    | cons d cs₁ =>
      obtain ⟨rfl, -⟩ := List.cons.inj hcs₀
      exact absurd (by simp [hchars]) hb

/-- A stretch falls apart at every blank, as no word goes over one. -/
theorem exists_split_blank {b : Char} {ds : List Char} (hb : isBlank b = true)
    (h : Wording rest (cs ++ b :: ds) toks) :
    ∃ toks₁ toks₂, toks = toks₁ ++ toks₂ ∧ Wording (b :: (ds ++ rest)) cs toks₁ ∧
      Wording rest ds toks₂ := by
  generalize htext : cs ++ b :: ds = text at h
  induction h generalizing cs with
  | @blanks bs hbs =>
    subst htext
    exact ⟨[], [], rfl, .blanks fun c hc => hbs c (by simp [hc]),
      .blanks fun c hc => hbs c (by simp [hc])⟩
  | @word bs chars cs₀ kind toks hbs hspells hends tail ih =>
    have hnotMem : b ∉ chars := fun hmem =>
      absurd hb (by simp [hspells.isBlank_eq_false b hmem])
    rcases List.append_eq_append_iff.1 htext with ⟨blanks, rfl, hword⟩ | ⟨cs₁, rfl, hword⟩
    · -- The blank is one of those before the word, which then stands in the second part.
      cases blanks with
      | nil =>
        have hword' : chars ++ cs₀ = [] ++ b :: ds := hword.symm
        obtain ⟨cs₁, hnil, -⟩ := exists_append_cons hnotMem hword'
        exact absurd (List.append_eq_nil_iff.1 hnil.symm).1 hspells.ne_nil
      | cons c blanks =>
        obtain ⟨rfl, rfl⟩ := List.cons.inj hword
        exact ⟨[], _, rfl, .blanks fun c hc => hbs c (by simp [hc]),
          .word (fun c hc => hbs c (by simp [hc])) hspells hends tail⟩
    · obtain ⟨cs₂, rfl, rfl⟩ := exists_append_cons hnotMem hword
      obtain ⟨toks₁, toks₂, rfl, h₁, h₂⟩ := ih rfl
      exact ⟨_, toks₂, rfl, .word hbs hspells (by simpa using hends) h₁, h₂⟩

/-- A stretch is read as certain tokens only.

**Proof sketch.** Induction on the one reading. The other one must begin with the same word, as a
cursor before the stretch finds one word only, and it leaves the same text to be read. -/
theorem unique (h : Wording rest cs toks) (h' : Wording rest cs toks') : toks = toks' := by
  induction h generalizing toks' with
  | @blanks bs hbs =>
    cases h' with
    | blanks => rfl
    | word _ hspells' =>
      obtain ⟨c, cs, rfl, hblank⟩ := hspells'.eq_cons
      exact absurd (hbs c (by simp)) (by simp [hblank])
  | @word bs chars cs₀ kind toks hbs hspells hends tail ih =>
    generalize htext : bs ++ (chars ++ cs₀) = text at h'
    cases h' with
    | blanks hbs' =>
      obtain ⟨c, cs, rfl, hblank⟩ := hspells.eq_cons
      exact absurd (hbs' c (by simp [← htext])) (by simp [hblank])
    | @word bs' chars' cs₀' kind' toks' hbs' hspells' hends' tail' =>
      have hnext := Cursor.next_word 0 0 hbs hspells hends
      have hnext' := Cursor.next_word 0 0 hbs' hspells' hends'
      have hsame : bs ++ (chars ++ (cs₀ ++ rest)) = bs' ++ (chars' ++ (cs₀' ++ rest)) := by
        simpa using congrArg (· ++ rest) htext
      rw [hsame, hnext'] at hnext
      simp only [Prod.mk.injEq, Reading.token.injEq, Cursor.mk.injEq, List.append_left_inj]
        at hnext
      obtain ⟨htok, rfl, -, -⟩ := hnext
      rw [htok, ih tail']

end Wording

/-- Every text is read as some tokens, up to its end or to a character that begins no word.

**Proof sketch.** Induction on the length of the text: after a first word the rest is shorter. -/
theorem exists_wording (cs : List Char) :
    ∃ read toks rest, cs = read ++ rest ∧ Wording rest read toks ∧
      (rest = [] ∨ ∃ ch tail, rest = ch :: tail ∧ isBlank ch = false ∧ BeginsNoWord rest) := by
  induction hn : cs.length using Nat.strong_induction_on generalizing cs with
  | _ n ih =>
    cases opening cs with
    | eof hbs => exact ⟨cs, [], [], by simp, .blanks hbs, Or.inl rfl⟩
    | @word bs chars tail kind hbs hspells hends =>
      have hlt : tail.length < n := by
        have hpos := List.length_pos_iff.2 hspells.ne_nil
        simp only [List.length_append] at hn
        omega
      obtain ⟨read, toks, rest, rfl, hread, hrest⟩ := ih _ hlt tail rfl
      exact ⟨bs ++ (chars ++ read), _, rest, by simp, .word hbs hspells hends hread, hrest⟩
    | @invalid bs tail ch hbs hblank hno =>
      exact ⟨bs, [], ch :: tail, rfl, .blanks hbs, Or.inr ⟨ch, tail, rfl, hblank, hno⟩⟩

namespace Cursor

/-- Reading from a cursor on gives certain tokens, one after the other, and then the end. -/
def Lexes (c : Cursor) (toks : List Token) : Prop :=
  (c.readings (toks.length + 1)).map Prod.fst = toks.map .token ++ [.eof]

lemma lexes_of_wording {cs : List Char} {toks : List Token} (h : Wording [] cs toks)
    (pos start : Nat) : Lexes ⟨cs, pos, start⟩ toks := by
  induction h generalizing pos start with
  | blanks hbs => simp [Lexes, readings, next_eof pos start hbs]
  | word hbs hspells hends tail ih =>
    rw [List.append_nil] at hends
    simp only [Lexes, List.length_cons, readings, next_word pos start hbs hspells hends,
      List.map_cons, List.cons_append, List.cons.injEq, true_and]
    exact ih _ _

lemma wording_of_lexes {cs : List Char} {toks : List Token} {pos start : Nat}
    (h : Lexes ⟨cs, pos, start⟩ toks) : Wording [] cs toks := by
  induction toks generalizing cs pos start with
  | nil =>
    cases opening cs with
    | eof hbs => exact .blanks hbs
    | word hbs hspells hends => simp [Lexes, readings, next_word pos start hbs hspells hends] at h
    | invalid hbs hblank hno => simp [Lexes, readings, next_invalid pos start hbs hblank hno] at h
  | cons tok toks ih =>
    cases opening cs with
    | eof hbs => simp [Lexes, readings, next_eof pos start hbs] at h
    | word hbs hspells hends =>
      simp only [Lexes, List.length_cons, readings, next_word pos start hbs hspells hends,
        List.map_cons, List.cons_append, List.cons.injEq, Reading.token.injEq] at h
      obtain ⟨rfl, h⟩ := h
      exact .word hbs hspells (by rwa [List.append_nil]) (ih h)
    | invalid hbs hblank hno =>
      simp [Lexes, readings, next_invalid pos start hbs hblank hno] at h

/-- What is read after a stretch of text, whatever blanks stand before it, is among the readings. -/
lemma mem_readings {rest cs : List Char} {toks : List Token} {r : Reading}
    (h : Wording rest cs toks)
    (hr : ∀ bs pos start, Blanks bs →
      ∃ c : Cursor, next ⟨bs ++ rest, pos, start⟩ = (r, c) ∧ c.start = pos + bs.length)
    (pos start : Nat) :
    (r, pos + cs.length) ∈ readings ⟨cs ++ rest, pos, start⟩ (toks.length + 1) := by
  induction h generalizing pos start with
  | @blanks bs hbs =>
    obtain ⟨c, hnext, hstart⟩ := hr bs pos start hbs
    simp [readings, hnext, hstart]
  | @word bs chars cs kind toks hbs hspells hends tail ih =>
    simp only [List.append_assoc, List.length_append, List.length_cons, readings,
      next_word pos start hbs hspells hends]
    have hlater := ih (pos + bs.length + chars.length) (pos + bs.length)
    exact List.mem_cons_of_mem _ (by simpa only [readings, Nat.add_assoc] using hlater)

/-- A reading never goes back. -/
lemma le_next (c : Cursor) : c.pos ≤ c.next.2.start ∧ c.pos ≤ c.next.2.pos := by
  obtain ⟨cs, pos, start⟩ := c
  cases opening cs with
  | eof hbs => simp [next_eof pos start hbs]
  | word hbs hspells hends => simp [next_word pos start hbs hspells hends, Nat.add_assoc]
  | invalid hbs hblank hno => simp [next_invalid pos start hbs hblank hno]

lemma le_of_mem_readings {c : Cursor} {n : Nat} {x : Reading × Nat} (hx : x ∈ c.readings n) :
    c.pos ≤ x.2 := by
  induction n generalizing c with
  | zero => cases hx
  | succ n ih =>
    rcases List.mem_cons.1 hx with rfl | hx
    · exact c.le_next.1
    · exact c.le_next.2.trans (ih hx)

/-- What is read within a stretch of text are its tokens. -/
lemma mem_of_mem_readings {rest cs : List Char} {toks : List Token} (h : Wording rest cs toks)
    {pos start n : Nat} {x : Reading × Nat} (hx : x ∈ readings ⟨cs ++ rest, pos, start⟩ n)
    (hlt : x.2 < pos + cs.length) : ∃ tok ∈ toks, x.1 = .token tok := by
  induction h generalizing pos start n with
  | @blanks bs hbs =>
    have hnext : next ⟨bs ++ rest, pos, start⟩ = next ⟨rest, pos + bs.length, start⟩ := by
      simp only [next, skipBlanks, List.takeWhile_append_of_pos hbs,
        List.dropWhile_append_of_pos hbs, List.length_append, Nat.add_assoc]
    cases n with
    | zero => cases hx
    | succ n =>
      rw [readings, hnext] at hx
      have hle := le_of_mem_readings (c := ⟨rest, pos + bs.length, start⟩) (n := n + 1) hx
      simp only at hle
      omega
  | @word bs chars cs kind toks hbs hspells hends tail ih =>
    cases n with
    | zero => cases hx
    | succ n =>
      simp only [List.append_assoc, readings, next_word pos start hbs hspells hends,
        List.mem_cons] at hx
      rcases hx with rfl | hx
      · exact ⟨_, List.mem_cons_self, rfl⟩
      · simp only [List.length_append] at hlt
        obtain ⟨tok, htok, hx⟩ := ih hx (by omega)
        exact ⟨tok, List.mem_cons_of_mem _ htok, hx⟩

/-- **The tokens of a text.** Reading a text gives certain tokens and then the end exactly if all of
the text is the wording of these tokens. -/
theorem lexes_iff_wording {text : String} {toks : List Token} :
    (ofText text).Lexes toks ↔ Wording [] text.toList toks :=
  ⟨wording_of_lexes, fun h => lexes_of_wording h 0 0⟩

end Cursor

end BlockLang
