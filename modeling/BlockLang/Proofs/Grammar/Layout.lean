import BlockLang.Grammar.Parse
import BlockLang.Proofs.Grammar.Run

set_option relaxedAutoImplicit false
set_option autoImplicit false

/-!
# Layout

The same tokens may be written with other blanks between them. Some blank is needed only where one
word would be read on into the next: between names, between a name and an integer after it, and
between integers. However the blanks are laid out, the text is read as the same tokens, and parsing
it gives the same tree, or the same error at the place to which the blamed token has moved.

## Main definitions

* `BlockLang.Token.Kind.RunsInto` — a word would be read on into a word right after it.
* `BlockLang.LaidOut` — characters that are certain tokens with some layout of blanks.
* `BlockLang.Cursor.places` — where the words of a text begin, and where the text ends.
* `BlockLang.SameUpToPlaces` — results that differ at most in the place of an error.

## Main results

* `BlockLang.LaidOut.wording` — the characters are read as these tokens.
* `BlockLang.Automaton.runFrom_sameUpToPlaces` — runs over the same tokens in lock step.
* `BlockLang.layout_never_matters` — parsing a text and another layout of it.
-/

namespace BlockLang

/-! ## Layouts -/

namespace Token.Kind

/-- Whether a word of the first kind would be read on into a word of the second kind if that stood
right after it. -/
def RunsInto : Kind → Kind → Bool
  | identifier, identifier | identifier, integer | integer, integer => true
  | _, _ => false

/-- A word ends before a word that it does not run into. -/
lemma endsBefore_of_runsInto_eq_false {kind next : Kind} {chars : List Char}
    (h : kind.RunsInto next = false) (hspells : next.Spells chars) (rest : List Char) :
    kind.EndsBefore (chars ++ rest) := by
  have hsymbol : ∀ c ∈ ['+', '-', '*', '/', ':', ';', '.', '(', ')'], isWordChar c = false := by
    simp [isWordChar_eq_isAlphanum_or]
  cases next with
  | integer =>
    obtain ⟨hne, hdigits⟩ := hspells
    cases kind with
    | integer | identifier => cases h
    | operator | sign | bracket | eof => exact fun c hc => rfl
  | identifier =>
    obtain ⟨c, cs, rfl, hletter, -⟩ := hspells
    cases kind with
    | integer =>
      intro d hd
      obtain rfl : c = d := by simpa using hd
      by_contra hdigit
      have hdigit' : c.isDigit = true := by simpa [continues] using hdigit
      rw [isLetter_eq_false_of_isDigit hdigit'] at hletter
      cases hletter
    | identifier => cases h
    | operator | sign | bracket | eof => exact fun c hc => rfl
  | operator =>
    refine endsBefore_of_isWordChar_eq_false ?_
    rcases hspells with rfl | rfl | rfl | rfl <;> simp [hsymbol]
  | sign =>
    refine endsBefore_of_isWordChar_eq_false ?_
    rcases hspells with rfl | rfl | rfl <;> simp [hsymbol]
  | bracket =>
    refine endsBefore_of_isWordChar_eq_false ?_
    rcases hspells with rfl | rfl <;> simp [hsymbol]
  | eof => exact hspells.elim

end Token.Kind

/-- The characters are the texts of the tokens, one after the other, with blanks before, between and
after them. There may be no blanks at all, except between tokens of which the first would run into
the second. -/
inductive LaidOut : List Token → List Char → Prop where
  | blanks {bs : List Char} (hbs : Blanks bs) : LaidOut [] bs
  | word {bs cs : List Char} {tok : Token} {toks : List Token} (hbs : Blanks bs)
      (hgap : ∀ next ∈ toks.head?, tok.kind.RunsInto next.kind = true →
        ∃ b ∈ cs.head?, isBlank b = true)
      (tail : LaidOut toks cs) : LaidOut (tok :: toks) (bs ++ (tok.text.toList ++ cs))

/-- A word ends before a stretch of text if there is a blank or the first word of the stretch is
none that it runs into. -/
lemma Wording.endsBefore {kind : Token.Kind} {cs : List Char} {toks : List Token}
    (h : Wording [] cs toks)
    (hgap : ∀ next ∈ toks.head?,
      kind.RunsInto next.kind = true → ∃ b ∈ cs.head?, isBlank b = true) :
    kind.EndsBefore cs := by
  by_cases hblank : ∃ b ∈ cs.head?, isBlank b = true
  · obtain ⟨b, hb, hblank⟩ := hblank
    obtain ⟨rest, rfl⟩ := List.head?_eq_some_iff.1 hb
    exact Token.Kind.endsBefore_of_isBlank rest hblank
  · cases h with
    | blanks hbs =>
      cases cs with
      | nil => exact Token.Kind.endsBefore_nil kind
      | cons b bs => exact absurd ⟨b, rfl, hbs b List.mem_cons_self⟩ hblank
    | @word bs chars cs next toks hbs hspells hends tail =>
      cases bs with
      | nil =>
        have hruns : kind.RunsInto next = false := by
          by_contra hruns
          exact hblank (hgap _ rfl (by simpa using hruns))
        exact Token.Kind.endsBefore_of_runsInto_eq_false hruns hspells cs
      | cons b bs => exact absurd ⟨b, rfl, hbs b List.mem_cons_self⟩ hblank

/-- The characters of a layout are read as its tokens, if these are the tokens of some text.

**Proof sketch.** Induction on the text that the tokens come from, so that each is known to be a
word. In the layout it ends before what is read there as the other tokens. -/
theorem LaidOut.wording {toks : List Token} {cs cs' : List Char} (hlaid : LaidOut toks cs')
    (h : Wording [] cs toks) : Wording [] cs' toks := by
  induction h generalizing cs' with
  | blanks hbs =>
    cases hlaid with
    | blanks hbs' => exact .blanks hbs'
  | @word bs chars cs kind toks hbs hspells hends tail ih =>
    cases hlaid with
    | @word bs' cs' _ _ hbs' hgap htail =>
      have hread : Wording [] cs' toks := ih htail
      have hends' : kind.EndsBefore (cs' ++ []) := by
        rw [List.append_nil]
        exact hread.endsBefore hgap
      rw [Token.text_ofChars, String.toList_ofList]
      exact .word hbs' hspells hends' hread

/-! ## Places -/

/-- The places where the first `n` words of a text begin, and the place of its end. -/
def Cursor.places (text : String) (n : Nat) : List Nat :=
  ((ofText text).readings n).map Prod.snd ++ [text.length]

/-- The error at another place. -/
def ParseError.moveTo (pos : Nat) : ParseError → ParseError
  | invalidCharacter ch _ => invalidCharacter ch pos
  | integerTooLarge digits _ => integerTooLarge digits pos
  | unexpected expected found _ => unexpected expected found pos

lemma moveTo_error (refusal : Refusal) (tok : Token) (pos pos' : Nat) :
    (refusal.error tok pos).moveTo pos' = refusal.error tok pos' := by
  cases refusal <;> rfl

/-- Two results of parsing are the same, but for the place of an error: it is one of the places in
the first list for the one, and its counterpart in the second list for the other. -/
inductive SameUpToPlaces (places places' : List Nat) :
    Except ParseError Tree → Except ParseError Tree → Prop where
  | tree (t : Tree) : SameUpToPlaces places places' (.ok t) (.ok t)
  | error {err : ParseError} {i pos pos' : Nat} (hpos : places[i]? = some pos)
      (hpos' : places'[i]? = some pos') :
      SameUpToPlaces places places' (.error (err.moveTo pos)) (.error (err.moveTo pos'))

namespace SameUpToPlaces

variable {places places' : List Nat} {pos pos' : Nat} {r r' : Except ParseError Tree}

/-- Both runs refuse a token, or the end, at the first of the places. -/
lemma head (refusal : Refusal) (tok : Token) :
    SameUpToPlaces (pos :: places) (pos' :: places') (.error (refusal.error tok pos))
      (.error (refusal.error tok pos')) := by
  have herror := @error (pos :: places) (pos' :: places') (refusal.error tok 0) 0 pos pos' rfl rfl
  rwa [moveTo_error, moveTo_error] at herror

lemma cons (h : SameUpToPlaces places places' r r') (pos pos' : Nat) :
    SameUpToPlaces (pos :: places) (pos' :: places') r r' := by
  cases h with
  | tree t => exact .tree t
  | @error err i p p' hpos hpos' =>
    exact @error (pos :: places) (pos' :: places') err (i + 1) p p' hpos hpos'

end SameUpToPlaces

/-! ## Runs in lock step -/

namespace Automaton

variable {State : Type} (m : Automaton State)

/-- Over two texts that are read as the same tokens an automaton comes to the same result, up to the
places of the tokens.

**Proof sketch.** Induction on the one text. Both runs meet the same token in the same state, so
both refuse it, or both go on in the same state over texts with the same tokens left. -/
theorem runFrom_sameUpToPlaces {cs cs' : List Char} {toks : List Token} (h : Wording [] cs toks)
    (h' : Wording [] cs' toks) (s : State) (pos start pos' start' : Nat) :
    SameUpToPlaces
      ((Cursor.readings ⟨cs, pos, start⟩ toks.length).map Prod.snd ++ [pos + cs.length])
      ((Cursor.readings ⟨cs', pos', start'⟩ toks.length).map Prod.snd ++ [pos' + cs'.length])
      (m.runFrom s (Cursor.streamAt cs pos)) (m.runFrom s (Cursor.streamAt cs' pos')) := by
  induction h generalizing cs' s pos start pos' start' with
  | @blanks bs hbs =>
    cases h' with
    | @blanks bs' hbs' =>
      have hend : ∀ {ds : List Char}, Blanks ds → ∀ p,
          Cursor.streamAt ds p = .eof (p + ds.length) := fun {ds} hds p => by
        rw [← List.append_nil ds, Cursor.streamAt_blanks p hds, Cursor.streamAt_nil,
          List.append_nil]
      rw [hend hbs, hend hbs', runFrom, runFrom]
      rcases m.finish s with refusal | t
      · exact .head refusal .eof
      · exact .tree t
  | @word bs chars cs kind toks hbs hspells hends tail ih =>
    generalize htok : Token.ofChars kind chars = tok at h'
    cases h' with
    | @word bs' chars' cs' kind' _ hbs' hspells' hends' tail' =>
      rw [List.append_nil] at hends hends'
      -- The tokens are the same, so the words are too; only the blanks before them may differ.
      obtain ⟨rfl, hchars⟩ := Token.mk.inj htok
      obtain rfl : chars = chars' := String.ofList_injective (Option.some.inj hchars)
      simp only [List.length_cons, Cursor.readings, Cursor.next_word _ _ hbs hspells hends,
        Cursor.next_word _ _ hbs' hspells hends', List.map_cons, List.cons_append,
        Cursor.streamAt_blanks _ hbs, Cursor.streamAt_blanks _ hbs',
        Cursor.streamAt_word _ hspells hends, Cursor.streamAt_word _ hspells hends', runFrom]
      rcases m.step s (Token.ofChars kind chars).terminal with refusal | u
      · exact .head refusal _
      · have hlater := ih tail' u (pos + bs.length + chars.length) (pos + bs.length)
          (pos' + bs'.length + chars.length) (pos' + bs'.length)
        simpa [Nat.add_assoc] using hlater.cons (pos + bs.length) (pos' + bs'.length)

/-- The same for whole texts. -/
lemma run_sameUpToPlaces {text text' : String} {toks : List Token}
    (h : Wording [] text.toList toks) (h' : Wording [] text'.toList toks) :
    SameUpToPlaces (Cursor.places text toks.length) (Cursor.places text' toks.length)
      (m.run (.ofText text)) (m.run (.ofText text')) := by
  have hruns := m.runFrom_sameUpToPlaces h h' m.start 0 0 0 0
  rwa [Nat.zero_add, Nat.zero_add, String.length_toList, String.length_toList] at hruns

end Automaton

/-- **Layout never matters.** If a text is read as certain tokens up to its end, then so is every
layout of these tokens, and parsing the two as a program gives the same tree, or the same error at
the place of the same token or at the ends of the texts; and so does parsing them as an
expression. -/
theorem layout_never_matters {text text' : String} {toks : List Token}
    (htext : (Cursor.ofText text).Lexes toks) (hlaid : LaidOut toks text'.toList) :
    (Cursor.ofText text').Lexes toks ∧
    SameUpToPlaces (Cursor.places text toks.length) (Cursor.places text' toks.length)
      (parse text) (parse text') ∧
    SameUpToPlaces (Cursor.places text toks.length) (Cursor.places text' toks.length)
      (parseExpr text) (parseExpr text') := by
  have hwording := Cursor.lexes_iff_wording.1 htext
  have hwording' := hlaid.wording hwording
  exact ⟨Cursor.lexes_iff_wording.2 hwording',
    Program.automaton.run_sameUpToPlaces hwording hwording',
    Expression.automaton.run_sameUpToPlaces hwording hwording'⟩

/-- Digits and a name right after them stay two words, so the name is refused in both layouts. -/
theorem layout_never_matters_digits_before_name :
    SameUpToPlaces [0, 1, 2, 5, 7] [1, 4, 5, 7, 10] (parseExpr "x*12 ab")
      (parseExpr "\tx\u3000\n*12ab\n") ∧
    parseExpr "x*12 ab" = .error (.unexpected "end of input" "identifier `ab`" 5) ∧
    parseExpr "\tx\u3000\n*12ab\n" = .error (.unexpected "end of input" "identifier `ab`" 7) := by
  have htext : (Cursor.ofText "x*12 ab").Lexes
      [.ofChars .identifier ['x'], .ofChars .operator ['*'], .ofChars .integer ['1', '2'],
        .ofChars .identifier ['a', 'b']] := by
    rw [Cursor.Lexes]
    decide +kernel
  have hblank : isBlank '\t' = true ∧ isBlank '\u3000' = true ∧ isBlank '\n' = true := by
    decide +kernel
  have hblanks : Blanks ['\t'] ∧ Blanks ['\u3000', '\n'] ∧ Blanks ['\n'] := by
    simp [Blanks, hblank]
  have hlaid : LaidOut
      [.ofChars .identifier ['x'], .ofChars .operator ['*'], .ofChars .integer ['1', '2'],
        .ofChars .identifier ['a', 'b']] "\tx\u3000\n*12ab\n".toList := by
    have hab : LaidOut [.ofChars .identifier ['a', 'b']] _ :=
      .word blanks_nil (by simp) (.blanks hblanks.2.2)
    have hdigits : LaidOut (.ofChars .integer ['1', '2'] :: _) _ :=
      .word blanks_nil (by simp [Token.Kind.RunsInto]) hab
    have hstar : LaidOut (.ofChars .operator ['*'] :: _) _ :=
      .word hblanks.2.1 (by simp [Token.Kind.RunsInto]) hdigits
    have hx : LaidOut (.ofChars .identifier ['x'] :: _) _ :=
      .word hblanks.1 (by simp [Token.Kind.RunsInto]) hstar
    simpa using hx
  have hsame := (layout_never_matters htext hlaid).2.2
  have hplaces : Cursor.places "x*12 ab" 4 = [0, 1, 2, 5, 7] := by decide +kernel
  have hplaces' : Cursor.places "\tx\u3000\n*12ab\n" 4 = [1, 4, 5, 7, 10] := by decide +kernel
  rw [List.length_cons, List.length_cons, List.length_cons, List.length_singleton, hplaces,
    hplaces'] at hsame
  exact ⟨hsame, by decide +kernel, by decide +kernel⟩

end BlockLang
