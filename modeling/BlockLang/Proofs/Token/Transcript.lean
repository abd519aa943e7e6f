import BlockLang.Grammar.ParseError
import BlockLang.Proofs.Token.Reading

set_option relaxedAutoImplicit false
set_option autoImplicit false

/-!
# Readings and the text they come from

The readings of a text lose no character, take none twice and add none: each begins at the first
character after the last word that is no blank, a word is the text that stands there and is as long
as it can be, and after the end or a character that begins no word nothing else is read.

## Main definitions

* `BlockLang.ReadingAt` — what a single reading has to do with the text.
* `BlockLang.Transcribes` — what successive readings have to do with it.

## Main results

* `BlockLang.transcribes_readings` — this is how every text is read, by any number of readings.
-/

namespace BlockLang

/-- What a reading that starts out at the place `floor` of a text and finds something at the place
`start` has to do with the text. -/
structure ReadingAt (cs : List Char) (floor start : Nat) (r : Reading) : Prop where
  floor_le : floor ≤ start
  le_length : start ≤ cs.length
  /-- Only blanks are passed. -/
  blanks : Blanks ((cs.drop floor).take (start - floor))
  /-- All blanks are passed. -/
  no_blank : ∀ c ∈ (cs.drop start).head?, isBlank c = false
  /-- A word is read exactly where it stands and does not go on. -/
  token : ∀ tok, r = .token tok ↔ ∃ chars, tok = .ofChars tok.kind chars ∧ tok.kind.Spells chars ∧
    chars <+: cs.drop start ∧ tok.kind.EndsBefore (cs.drop (start + chars.length))
  /-- The end is read exactly at the end. -/
  eof : r = .eof ↔ start = cs.length
  /-- A character is refused exactly where no word stands. -/
  invalid : ∀ ch pos, r.result start = .error (.invalidCharacter ch pos) ↔
    pos = start ∧ (cs.drop start).head? = some ch ∧ BeginsNoWord (cs.drop start)

/-- What successive readings that start out at the place `floor` of a text have to do with it. The
next reading starts out at the end of a word; after anything but a word it finds the same again. -/
def Transcribes (cs : List Char) : Nat → List (Reading × Nat) → Prop
  | _, [] => True
  | floor, (r, start) :: rs =>
    ReadingAt cs floor start r ∧
      match r with
      | .token tok => Transcribes cs (start + tok.text.length) rs
      | .eof | .invalid _ => ∀ next ∈ rs, next = (r, start)

namespace Cursor

/-! ## One reading -/

/-- What is read at the head of a text, apart from how it is found. -/
lemma reading_iff (tail : List Char) (pos start : Nat) :
    (∀ tok, (here ⟨tail, pos, start⟩).1 = .token tok ↔
      ∃ chars, tok = .ofChars tok.kind chars ∧ tok.kind.Spells chars ∧ chars <+: tail ∧
        tok.kind.EndsBefore (tail.drop chars.length)) ∧
    ((here ⟨tail, pos, start⟩).1 = .eof ↔ tail = []) ∧
    ∀ ch, (here ⟨tail, pos, start⟩).1 = .invalid ch ↔
      tail.head? = some ch ∧ BeginsNoWord tail := by
  have hword : ∀ tok, (∃ chars, tok = .ofChars tok.kind chars ∧ tok.kind.Spells chars ∧
      chars <+: tail ∧ tok.kind.EndsBefore (tail.drop chars.length)) ↔
      ∃ w, Lexeme.first? tail = some w ∧ tok = w.token := by
    intro tok
    constructor
    · rintro ⟨chars, htok, hspells, ⟨rest, rfl⟩, hends⟩
      rw [List.drop_left] at hends
      exact ⟨_, Lexeme.first?_append hspells hends, htok⟩
    · rintro ⟨w, hw, rfl⟩
      obtain ⟨hspells, hends, rfl⟩ := Lexeme.first?_eq_some_iff.1 hw
      exact ⟨w.chars, rfl, hspells, List.prefix_append _ _, by rwa [List.drop_left]⟩
  simp only [hword, ← Lexeme.first?_eq_none_iff]
  cases tail with
  | nil => simp [here, Lexeme.first?]
  | cons c cs =>
    rcases hw : Lexeme.first? (c :: cs) with _ | w
    · simp [here, hw]
    · simp [here, hw, eq_comm]

/-- The reading at a cursor that stands in a text has to do with the text what it should. -/
lemma readingAt_next (before rest : List Char) (start : Nat) :
    ReadingAt (before ++ rest) before.length
      (next ⟨rest, before.length, start⟩).2.start (next ⟨rest, before.length, start⟩).1 := by
  set bs := rest.takeWhile isBlank with hbs
  set tail := rest.dropWhile isBlank with htail
  have hrest : rest = bs ++ tail := (List.takeWhile_append_dropWhile).symm
  have hblanks : Blanks bs := fun b hb => List.mem_takeWhile_imp hb
  have hhead : ∀ c ∈ tail.head?, isBlank c = false := by
    intro c hc
    have hnot := List.head?_dropWhile_not isBlank rest
    rwa [← htail, hc] at hnot
  have hdrop : (before ++ rest).drop (before.length + bs.length) = tail := by
    rw [hrest, ← List.append_assoc]
    exact List.drop_left' (by simp)
  have hnext : next ⟨rest, before.length, start⟩ =
      here ⟨tail, before.length + bs.length, before.length + bs.length⟩ := by
    rw [next, hrest, skipBlanks_append _ _ hblanks hhead]
  have hstart : (next ⟨rest, before.length, start⟩).2.start = before.length + bs.length := by
    rw [hnext, here]
    split
    · rfl
    · split <;> rfl
  obtain ⟨htoken, heof, hinvalid⟩ :=
    reading_iff tail (before.length + bs.length) (before.length + bs.length)
  rw [hstart, hnext]
  constructor
  · omega
  · simp [hrest]
  · rw [List.drop_left, Nat.add_sub_cancel_left, hrest, List.take_left]
    exact hblanks
  · rwa [hdrop]
  · intro tok
    rw [htoken, hdrop]
    simp only [← List.drop_drop, hdrop]
  · rw [heof, hrest]
    simp [← List.length_eq_zero_iff]
  · intro ch pos
    rw [hdrop, ← hinvalid]
    cases (here ⟨tail, before.length + bs.length, before.length + bs.length⟩).1 <;>
      simp [Reading.result, eq_comm, and_comm]

/-! ## Successive readings -/

@[simp] lemma length_readings (c : Cursor) (n : Nat) : (c.readings n).length = n := by
  induction n generalizing c with
  | zero => rfl
  | succ n ih => simp [readings, ih]

/-- A cursor that a reading leaves alone is left alone by all. -/
lemma eq_of_mem_readings {c : Cursor} {r : Reading} (h : c.next = (r, c)) {n : Nat}
    {x : Reading × Nat} (hx : x ∈ c.readings n) : x = (r, c.start) := by
  induction n with
  | zero => cases hx
  | succ n ih =>
    rw [readings, h] at hx
    rcases List.mem_cons.1 hx with rfl | hx
    · rfl
    · exact ih hx

lemma transcribes_readings_from (n : Nat) (before rest : List Char) (start : Nat) :
    Transcribes (before ++ rest) before.length (readings ⟨rest, before.length, start⟩ n) := by
  induction n generalizing before rest start with
  | zero => trivial
  | succ n ih =>
    refine ⟨readingAt_next before rest start, ?_⟩
    cases opening rest with
    | eof hbs =>
      rw [next_eof _ _ hbs]
      intro x hx
      exact eq_of_mem_readings (next_eof _ _ blanks_nil) hx
    | @word bs chars rest kind hbs hspells hends =>
      rw [next_word _ _ hbs hspells hends]
      have hafter := ih (before ++ (bs ++ chars)) rest (before.length + bs.length)
      simpa [Nat.add_assoc] using hafter
    | invalid hbs hblank hno =>
      rw [next_invalid _ _ hbs hblank hno]
      intro x hx
      exact eq_of_mem_readings (next_invalid _ _ blanks_nil hblank hno) hx

end Cursor

/-- **The readings transcribe the text**, however many of them are made. -/
theorem transcribes_readings (text : String) (n : Nat) :
    ((Cursor.ofText text).readings n).length = n ∧
      Transcribes text.toList 0 ((Cursor.ofText text).readings n) :=
  ⟨Cursor.length_readings _ n, Cursor.transcribes_readings_from n [] text.toList 0⟩

end BlockLang
