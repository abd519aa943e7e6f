import BlockLang.Proofs.Token.Word

set_option relaxedAutoImplicit false
set_option autoImplicit false

/-!
# One reading

A reading passes the blanks and then finds a word, a character that begins none, or the end. Which
of the three it finds, and where, depends on the text from the cursor on alone.

## Main definitions

* `BlockLang.Opening` — the three ways in which a text goes on after its blanks.

## Main results

* `BlockLang.opening` — every text goes on in one of the three ways.
* `BlockLang.Cursor.next_word`, `BlockLang.Cursor.next_eof`, `BlockLang.Cursor.next_invalid` — the
  reading in each of them.
-/

namespace BlockLang

/-- All characters are blanks. -/
def Blanks (bs : List Char) : Prop :=
  ∀ b ∈ bs, isBlank b = true

@[simp] lemma blanks_nil : Blanks [] := by
  simp [Blanks]

@[simp] lemma blanks_space : Blanks [' '] := by
  simp only [Blanks, List.mem_singleton, forall_eq]
  exact isBlank_of_isWhitespace rfl

lemma Blanks.append {bs bs' : List Char} (h : Blanks bs) (h' : Blanks bs') : Blanks (bs ++ bs') :=
  fun b hb => (List.mem_append.1 hb).elim (h b) (h' b)

/-- How a text goes on after its blanks: it ends, or a word follows, or a character that begins
none. -/
inductive Opening : List Char → Prop where
  | eof {bs : List Char} (blanks : Blanks bs) : Opening bs
  | word {bs chars rest : List Char} {kind : Token.Kind} (blanks : Blanks bs)
      (spells : kind.Spells chars) (ends : kind.EndsBefore rest) : Opening (bs ++ (chars ++ rest))
  | invalid {bs rest : List Char} {ch : Char} (blanks : Blanks bs) (blank : isBlank ch = false)
      (no_word : BeginsNoWord (ch :: rest)) : Opening (bs ++ ch :: rest)

/-- Every text goes on in one of the three ways after its blanks. -/
theorem opening (cs : List Char) : Opening cs := by
  have hblanks : Blanks (cs.takeWhile isBlank) := fun b hb => List.mem_takeWhile_imp hb
  rw [← List.takeWhile_append_dropWhile (p := isBlank) (l := cs)]
  rcases hdrop : cs.dropWhile isBlank with _ | ⟨ch, rest⟩
  · rw [List.append_nil]
    exact .eof hblanks
  · have hblank : isBlank ch = false := by
      have hnot := List.head?_dropWhile_not isBlank cs
      rwa [hdrop] at hnot
    rcases hw : Lexeme.first? (ch :: rest) with _ | w
    · exact .invalid hblanks hblank (Lexeme.first?_eq_none_iff.1 hw)
    · obtain ⟨hspells, hends, happend⟩ := Lexeme.first?_eq_some_iff.1 hw
      rw [← happend]
      exact .word hblanks hspells hends

namespace Cursor

variable {bs chars rest : List Char} (pos start : Nat)

lemma skipBlanks_append (hbs : Blanks bs) (hrest : ∀ c ∈ rest.head?, isBlank c = false) :
    (⟨bs ++ rest, pos, start⟩ : Cursor).skipBlanks =
      ⟨rest, pos + bs.length, pos + bs.length⟩ := by
  have hhead : rest.takeWhile isBlank = [] ∧ rest.dropWhile isBlank = rest := by
    cases rest with
    | nil => simp
    | cons c rest => simp [hrest c rfl]
  rw [skipBlanks]
  simp only [List.takeWhile_append_of_pos hbs, List.dropWhile_append_of_pos hbs, hhead,
    List.append_nil]

/-- A word after some blanks is read, and the cursor comes to stand behind it. -/
theorem next_word {kind : Token.Kind} (hbs : Blanks bs) (hspells : kind.Spells chars)
    (hends : kind.EndsBefore rest) :
    (⟨bs ++ (chars ++ rest), pos, start⟩ : Cursor).next =
      (.token (.ofChars kind chars),
        ⟨rest, pos + bs.length + chars.length, pos + bs.length⟩) := by
  obtain ⟨c, cs, rfl, hblank⟩ := hspells.eq_cons
  rw [next, skipBlanks_append pos start hbs (by simpa using hblank), here]
  simp only [List.cons_append]
  rw [← List.cons_append, Lexeme.first?_append hspells hends]
  rfl

/-- Where only blanks are left the end is read, behind them. -/
theorem next_eof (hbs : Blanks bs) :
    (⟨bs, pos, start⟩ : Cursor).next =
      (.eof, ⟨[], pos + bs.length, pos + bs.length⟩) := by
  rw [next, ← List.append_nil bs, skipBlanks_append pos start hbs (by simp), here,
    List.append_nil]

/-- A character that begins no word is read, and the cursor stays before it. -/
theorem next_invalid {ch : Char} (hbs : Blanks bs) (hblank : isBlank ch = false)
    (hno : BeginsNoWord (ch :: rest)) :
    (⟨bs ++ ch :: rest, pos, start⟩ : Cursor).next =
      (.invalid ch, ⟨ch :: rest, pos + bs.length, pos + bs.length⟩) := by
  rw [next, skipBlanks_append pos start hbs (by simpa using hblank), here]
  simp only [Lexeme.first?_eq_none_iff.2 hno]

end Cursor

end BlockLang
