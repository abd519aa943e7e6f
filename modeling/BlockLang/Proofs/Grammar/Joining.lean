import BlockLang.Proofs.Evaluation.Assignments
import BlockLang.Proofs.Tree.Reparse

set_option relaxedAutoImplicit false
set_option autoImplicit false

/-!
# Programs joined with a semicolon

What stands between the keywords of a program is known only as a text that parses there. That is
enough: a block closes where its own keyword stands, so the text is read as the statements of the
block wherever it stands between blanks, and two such texts can be joined with a semicolon.

## Main definitions

* `BlockLang.Tree.runThen` — one tree is run and, if it succeeds, another one.

## Main results

* `BlockLang.Program.derives_program_iff` — the outermost keywords of a program.
* `BlockLang.Program.Derives.join` — statements joined with a semicolon.
* `BlockLang.Program.parse_block_eq_ok_iff` — a text between the keywords of a program.
* `BlockLang.joined_programs` — joined programs, parsed and run.
-/

namespace BlockLang

namespace Program

/-! ## Statements of a block -/

/-- The tokens of a program are its statements between the keywords, and the period. -/
theorem derives_program_iff {toks : List Token} {t : Tree} :
    Derives .program toks t ↔
      ∃ l ts r p, toks = l :: (ts ++ [r, p]) ∧ l.isKeyword "BEGIN" = true ∧
        Derives .statements ts t ∧ r.isKeyword "END" = true ∧ p.is .sign "." = true := by
  constructor
  · intro h
    cases h with
    | program hb hp =>
      cases hb with
      | @block l r ts _ hl hts hr => exact ⟨l, ts, r, _, by simp, hl, hts, hr, hp⟩
  · rintro ⟨l, ts, r, p, rfl, hl, hts, hr, hp⟩
    have hprogram := Derives.program (.block hl hts hr) hp
    simpa using hprogram

/-- Statements joined with a semicolon.

**Proof sketch.** Induction on the statements after the semicolon, which are added one by one. -/
theorem Derives.join {ts us : List Token} {semicolon : Token} {as bs : List Tree}
    (has : Derives .statements ts (.compound as)) (hsemicolon : semicolon.is .sign ";" = true)
    (hbs : Derives .statements us (.compound bs)) :
    Derives .statements (ts ++ semicolon :: us) (.compound (as ++ bs)) := by
  generalize hp : Part.statements = p at hbs
  generalize hb : Tree.compound bs = b at hbs
  induction hbs generalizing bs with
  | first hs =>
    obtain rfl := Tree.compound.inj hb
    exact .next has hsemicolon hs
  | @next t ts' us' cs s hcs ht hs ihcs _ =>
    obtain rfl := Tree.compound.inj hb
    have hnext := Derives.next (ihcs rfl rfl) ht hs
    simpa using hnext
  | _ => cases hp

/-- A text is the statements of a program exactly if it can stand between the keywords.

**Proof sketch.** The text of the program falls apart at the blanks around the given one. The first
part is the keyword that opens the program and the last one is the keyword that closes it with the
period, so what is between them in the grammar is read from the given text. -/
theorem parse_block_eq_ok_iff {A : String} {t : Tree} :
    parse ("BEGIN " ++ A ++ " END.") = .ok t ↔ Written .statements A.toList t := by
  have hchars : ("BEGIN " ++ A ++ " END.").toList =
      "BEGIN".toList ++ ' ' :: (A.toList ++ ' ' :: ("END".toList ++ ".".toList)) := by simp
  have hblank : isBlank ' ' = true := blanks_space ' ' (by simp)
  have hbegin := Writes.word Token.Kind.spells_begin
  have hperiod := Writes.word (Terminal.spells_of_symbol? (x := .period) rfl).1
  have hends : EndsWords ['.'] := endsWords_cons [] (by simp)
  have hend : Writes ("END".toList ++ ".".toList) _ :=
    (Writes.word Token.Kind.spells_end).append hends hperiod
  rw [parse_eq_ok_iff, hchars]
  constructor
  · rintro ⟨toks, htext, hderives⟩
    obtain ⟨l, ts, r, p, rfl, -, hts, -⟩ := derives_program_iff.1 hderives
    obtain ⟨opening, toks₂, hopening, h₁, h₂⟩ := htext.exists_split_blank hblank
    obtain ⟨toks, closing, rfl, hA, h₃⟩ := h₂.exists_split_blank hblank
    obtain rfl := h₁.unique (hbegin _ (endsWords_cons _ (by simp)))
    obtain rfl := h₃.unique (hend [] endsWords_nil)
    obtain ⟨-, hinner⟩ : l = _ ∧ ts ++ [r, p] = toks ++ _ := by simpa using hopening
    obtain ⟨rfl, -⟩ := List.append_inj' hinner rfl
    exact ⟨ts, hA.writes, hts⟩
  · intro h
    obtain ⟨toks, hwrites, hderives⟩ := written_program h.block
    exact ⟨toks, by simpa using hwrites [] endsWords_nil, hderives⟩

/-- The texts of statements, joined with a semicolon. -/
lemma Written.join {cs ds : List Char} {as bs : List Tree}
    (has : Written .statements cs (.compound as)) (hbs : Written .statements ds (.compound bs)) :
    Written .statements (cs ++ ' ' :: (";".toList ++ ' ' :: ds)) (.compound (as ++ bs)) := by
  obtain ⟨ts, hcs, has⟩ := has
  obtain ⟨us, hds, hbs⟩ := hbs
  have hwrites := hcs.append (endsWords_cons _ (by simp))
    (hds.blank.symbol (x := .semicolon) rfl).blank
  exact ⟨_, hwrites, has.join (Token.is_ofChars _ _) hbs⟩

/-- A block is a statement of its own. -/
lemma Written.nested {cs : List Char} {b : Tree} (h : Written .block cs b) :
    Written .statements cs (.compound [b]) := by
  obtain ⟨ts, hcs, hb⟩ := h
  exact ⟨ts, hcs, .first (.nested hb)⟩

end Program

/-! ## Joined programs -/

namespace Tree

/-- One tree is run and then, only if it succeeds, another one on the table that it leaves. -/
def runThen (a b : Tree) (s : Store) : Except EvalError Int64 × Store :=
  match a.run s with
  | (.ok _, s') => b.run s'
  | (.error err, s') => (.error err, s')

/-- The value of statements does not depend on what was before them, if there are any. -/
lemma runAll_of_ne_nil {cs : List Tree} (hne : cs ≠ []) (last : Int64) (s : Store) :
    runAll last cs s = (compound cs).run s := by
  obtain ⟨c, cs, rfl⟩ := List.exists_cons_of_ne_nil hne
  rw [run_compound, runAll_cons, runAll_cons]

lemma run_compound_append {as bs : List Tree} (hne : bs ≠ []) (s : Store) :
    (compound (as ++ bs)).run s = runThen (compound as) (compound bs) s := by
  rw [run_compound, runAll_append, runThen, run_compound]
  rcases runAll 0 as s with ⟨err | v, s'⟩
  · rfl
  · exact runAll_of_ne_nil hne v s'

lemma run_compound_cons {b : Tree} {bs : List Tree} (hne : bs ≠ []) (s : Store) :
    (compound (b :: bs)).run s = runThen b (compound bs) s := by
  rw [run_compound, runAll_cons, runThen]
  rcases b.run s with ⟨err | v, s'⟩
  · rfl
  · exact runAll_of_ne_nil hne v s'

end Tree

lemma ne_nil_of_parse {text : String} {children : List Tree}
    (h : parse text = .ok (.compound children)) : children ≠ [] := by
  cases (isStatement_of_parse h).1 with
  | compound hne => exact hne

/-- **Joining programs.** If two texts can stand between the keywords of a program, then so can both
with a semicolon between them, and the statements of the program are those of the one and then those
of the other; if the first text is put into a block, that block takes the place of its statements.
Either program does what the two programs do in turn, the second one only if the first succeeds. -/
theorem joined_programs {A B : String} {as bs : List Tree}
    (hA : parse ("BEGIN " ++ A ++ " END.") = .ok (.compound as))
    (hB : parse ("BEGIN " ++ B ++ " END.") = .ok (.compound bs)) :
    parse ("BEGIN " ++ A ++ " ; " ++ B ++ " END.") = .ok (.compound (as ++ bs)) ∧
    parse ("BEGIN BEGIN " ++ A ++ " END ; " ++ B ++ " END.") =
      .ok (.compound (.compound as :: bs)) ∧
    ∀ s, (Tree.compound (as ++ bs)).run s = Tree.runThen (.compound as) (.compound bs) s ∧
      (Tree.compound (.compound as :: bs)).run s =
        Tree.runThen (.compound as) (.compound bs) s := by
  have hne := ne_nil_of_parse hB
  have hwrittenA := Program.parse_block_eq_ok_iff.1 hA
  have hwrittenB := Program.parse_block_eq_ok_iff.1 hB
  refine ⟨?_, ?_, fun s => ⟨Tree.run_compound_append hne s, Tree.run_compound_cons hne s⟩⟩
  · have hjoined : "BEGIN " ++ A ++ " ; " ++ B ++ " END." =
        "BEGIN " ++ (A ++ " ; " ++ B) ++ " END." := by simp only [String.append_assoc]
    rw [hjoined, Program.parse_block_eq_ok_iff]
    simpa using hwrittenA.join hwrittenB
  · have hjoined : "BEGIN BEGIN " ++ A ++ " END ; " ++ B ++ " END." =
        "BEGIN " ++ ("BEGIN " ++ A ++ " END" ++ " ; " ++ B) ++ " END." :=
      String.toList_inj.1 (by simp)
    rw [hjoined, Program.parse_block_eq_ok_iff]
    simpa using hwrittenA.block.nested.join hwrittenB

/-- A first text that has a block in it and uses the name of a keyword as a variable, and a second
one that begins with an empty statement. -/
theorem joined_programs_keyword_variable :
    parse "BEGIN x := begin; begin y := x end ; ; z := 1 END." =
      .ok (.compound [.assign "x" (.var "begin"), .compound [.assign "y" (.var "x")], .noop,
        .assign "z" (.num 1)]) ∧
    parse "BEGIN BEGIN x := begin; begin y := x end END ; ; z := 1 END." =
      .ok (.compound [.compound [.assign "x" (.var "begin"), .compound [.assign "y" (.var "x")]],
        .noop, .assign "z" (.num 1)]) := by
  have hA : parse ("BEGIN " ++ "x := begin; begin y := x end" ++ " END.") =
      .ok (.compound [.assign "x" (.var "begin"), .compound [.assign "y" (.var "x")]]) := by
    decide +kernel
  have hB : parse ("BEGIN " ++ "; z := 1" ++ " END.") =
      .ok (.compound [.noop, .assign "z" (.num 1)]) := by
    decide +kernel
  obtain ⟨hjoined, hnested, -⟩ := joined_programs hA hB
  exact ⟨hjoined, hnested⟩

end BlockLang
