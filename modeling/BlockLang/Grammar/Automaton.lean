import BlockLang.Grammar.ParseError
import BlockLang.Grammar.Terminal
import BlockLang.Tree.Basic

set_option relaxedAutoImplicit false
set_option autoImplicit false

/-!
# Reading a stream of tokens

An automaton takes one token after the other. Each is either taken, which gives the next state, or
refused, which is the end; so the place of a refusal is that of the first token that no longer fits.

## Main definitions

* `BlockLang.Refusal` — why a token is not taken.
* `BlockLang.Automaton` — states, and what tokens and the end of a text do to them.
* `BlockLang.Automaton.run` — the tree that an automaton reads from a stream.
-/

namespace BlockLang

/-- Why an automaton does not take a token. -/
inductive Refusal where
  /-- It is an integer that is no 64-bit integer. -/
  | tooLarge (digits : String)
  /-- Something else is wanted. -/
  | expected (what : Expectation)
deriving DecidableEq, Repr

/-- The error of refusing a token at a place. -/
def Refusal.error (tok : Token) (pos : Nat) : Refusal → ParseError
  | tooLarge digits => .integerTooLarge digits pos
  | expected what => .unexpected what.text tok.display pos

/-- States in which a stream is read. -/
structure Automaton (State : Type) where
  /-- The state before the first token. -/
  start : State
  /-- Takes or refuses a token. -/
  step : State → Terminal → Except Refusal State
  /-- Takes or refuses the end of the text. -/
  finish : State → Except Refusal Tree

namespace Automaton

variable {State : Type}

/-- The tree that an automaton reads from a stream, or the first error. -/
def runFrom (m : Automaton State) : State → TokenStream → Except ParseError Tree
  | s, .eof pos => (m.finish s).mapError (Refusal.error .eof pos)
  | _, .invalid ch pos => .error (.invalidCharacter ch pos)
  | s, .token tok start rest =>
    match m.step s tok.terminal with
    | .ok s' => m.runFrom s' rest
    | .error refusal => .error (refusal.error tok start)

/-- The tree that an automaton reads from a place of a text on. -/
def run (m : Automaton State) (c : Cursor) : Except ParseError Tree :=
  m.runFrom m.start c.stream

end Automaton

end BlockLang
