import BlockLang.Proofs.Token.Reading

set_option relaxedAutoImplicit false
set_option autoImplicit false

/-!
# Where a cursor stands

However many readings have been made of a text, the cursor stands somewhere in it, and what is still
to be read is the text from there on. A word takes the cursor on.

## Main definitions

* `BlockLang.Cursor.StandsIn` — the cursor stands in a text.

## Main results

* `BlockLang.Cursor.standsIn_skip` — any number of readings leave the cursor in the text.
* `BlockLang.Cursor.pos_lt_of_next` — reading a word takes the cursor on.
-/

namespace BlockLang.Cursor

/-- The cursor stands in the text: the text falls into as many characters as lie before the cursor
and the characters that are still to be read. -/
def StandsIn (cs : List Char) (c : Cursor) : Prop :=
  ∃ before, cs = before ++ c.rest ∧ before.length = c.pos

variable {cs : List Char} {c c' : Cursor}

lemma standsIn_ofText (text : String) : (ofText text).StandsIn text.toList :=
  ⟨[], rfl, rfl⟩

/-- A reading leaves the cursor in the text. -/
lemma StandsIn.next (h : c.StandsIn cs) : c.next.2.StandsIn cs := by
  obtain ⟨rest, pos, start⟩ := c
  obtain ⟨before, rfl, rfl⟩ := h
  cases opening rest with
  | eof hbs =>
    rw [next_eof _ _ hbs]
    exact ⟨before ++ rest, by simp, by simp⟩
  | @word bs chars rest kind hbs hspells hends =>
    rw [next_word _ _ hbs hspells hends]
    exact ⟨before ++ (bs ++ chars), by simp, by simp [Nat.add_assoc]⟩
  | @invalid bs rest ch hbs hblank hno =>
    rw [next_invalid _ _ hbs hblank hno]
    exact ⟨before ++ bs, by simp, by simp⟩

lemma StandsIn.skip (h : c.StandsIn cs) (n : Nat) : (c.skip n).StandsIn cs := by
  induction n generalizing c with
  | zero => exact h
  | succ n ih => exact ih h.next

/-- Any number of readings leave the cursor in the text. -/
theorem standsIn_skip (text : String) (n : Nat) : ((ofText text).skip n).StandsIn text.toList :=
  (standsIn_ofText text).skip n

/-- One more reading starts out where the others have led. -/
lemma skip_succ (c : Cursor) (n : Nat) : c.skip (n + 1) = (c.skip n).next.2 := by
  induction n generalizing c with
  | zero => rfl
  | succ n ih => exact ih c.next.2

lemma readings_succ (c : Cursor) (n : Nat) :
    c.readings (n + 1) = c.readings n ++ [((c.skip n).next.1, (c.skip n).next.2.start)] := by
  induction n generalizing c with
  | zero => rfl
  | succ n ih => exact congrArg (_ :: ·) (ih c.next.2)

lemma StandsIn.pos_add_length (h : c.StandsIn cs) : c.pos + c.rest.length = cs.length := by
  obtain ⟨before, rfl, hpos⟩ := h
  rw [List.length_append, hpos]

lemma StandsIn.rest_eq (h : c.StandsIn cs) : c.rest = cs.drop c.pos := by
  obtain ⟨before, rfl, hpos⟩ := h
  rw [← hpos, List.drop_left]

/-- Reading a word takes the cursor on. -/
theorem pos_lt_of_next {tok : Token} (h : c.next = (.token tok, c')) : c.pos < c'.pos := by
  obtain ⟨rest, pos, start⟩ := c
  cases opening rest with
  | eof hbs => simp [next_eof pos start hbs] at h
  | @word bs chars rest kind hbs hspells hends =>
    have hlength := List.length_pos_iff.2 hspells.ne_nil
    simp only [next_word pos start hbs hspells hends, Prod.mk.injEq] at h
    rw [← h.2]
    show pos < pos + bs.length + chars.length
    omega
  | invalid hbs hblank hno => simp [next_invalid pos start hbs hblank hno] at h

/-- The end of a text is no word. -/
lemma kind_ne_eof_of_next {tok : Token} (h : c.next = (.token tok, c')) : tok.kind ≠ .eof := by
  obtain ⟨rest, pos, start⟩ := c
  cases opening rest with
  | eof hbs => simp [next_eof pos start hbs] at h
  | @word bs chars rest kind hbs hspells hends =>
    simp only [next_word pos start hbs hspells hends, Prod.mk.injEq, Reading.token.injEq] at h
    obtain ⟨rfl, -⟩ := h
    rintro rfl
    exact hspells
  | invalid hbs hblank hno => simp [next_invalid pos start hbs hblank hno] at h

end BlockLang.Cursor
