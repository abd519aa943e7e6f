import BlockLang.Grammar.Parse
import BlockLang.Proofs.Grammar.Program

set_option relaxedAutoImplicit false
set_option autoImplicit false

/-!
# What is parsed

Parsing a text gives a tree exactly if the text is read as tokens that are, by the grammar, an
expression or a program with this tree. As an automaton comes from its tokens to one state only, the
grammar is unambiguous.

## Main results

* `BlockLang.parses_iff_lexes_and_derives` — parsing accepts the grammar and builds its trees.
* `BlockLang.Expression.Derives.unique`, `BlockLang.Program.Derives.unique` — tokens have one tree.
-/

namespace BlockLang

variable {text : String} {t : Tree}

lemma parseExpr_eq_ok_iff :
    parseExpr text = .ok t ↔
      ∃ toks, Wording [] text.toList toks ∧ Expression.Derives .expression toks t := by
  simp only [parseExpr, Automaton.run_eq_ok_iff, Expression.accepts_iff_derives]

lemma parse_eq_ok_iff :
    parse text = .ok t ↔ ∃ toks, Wording [] text.toList toks ∧ Program.Derives .program toks t := by
  simp only [parse, Automaton.run_eq_ok_iff, Program.accepts_iff_derives]

/-- **Parsing accepts the grammar.** An expression is parsed exactly from the texts that are read as
the tokens of an expression up to the end, and its tree is the tree of the grammar; and so is a
program. -/
theorem parses_iff_lexes_and_derives (text : String) (t : Tree) :
    (parseExpr text = .ok t ↔
      ∃ toks, (Cursor.ofText text).Lexes toks ∧ Expression.Derives .expression toks t) ∧
    (parse text = .ok t ↔
      ∃ toks, (Cursor.ofText text).Lexes toks ∧ Program.Derives .program toks t) := by
  simp only [Cursor.lexes_iff_wording]
  exact ⟨parseExpr_eq_ok_iff, parse_eq_ok_iff⟩

/-- Tokens are an expression in one way only. -/
theorem Expression.Derives.unique {toks : List Token} {t t' : Tree}
    (h : Derives .expression toks t) (h' : Derives .expression toks t') : t = t' :=
  (accepts_iff_derives.2 h).unique (accepts_iff_derives.2 h')

/-- Tokens are a program in one way only. -/
theorem Program.Derives.unique {toks : List Token} {t t' : Tree}
    (h : Derives .program toks t) (h' : Derives .program toks t') : t = t' :=
  (accepts_iff_derives.2 h).unique (accepts_iff_derives.2 h')

end BlockLang
