import BlockLang.Grammar.Expression

set_option relaxedAutoImplicit false
set_option autoImplicit false

/-!
# Reading a program

Of an unfinished program one has to remember the statements that have been read in each open block,
and of the statement at hand the name to assign to and the unfinished expression.

## Main definitions

* `BlockLang.Program.Blocks` — the open blocks.
* `BlockLang.Program.State` — the states, within a statement and after it.
* `BlockLang.Program.automaton` — reads a program and nothing after it.
-/

namespace BlockLang.Program

/-- The open blocks: the statements of each, the last one first. -/
structure Blocks where
  /-- The statements so far in the innermost block. -/
  current : List Tree
  /-- Those in the blocks around it, from the inside out. -/
  outer : List (List Tree)
deriving DecidableEq, Repr

namespace Blocks

/-- The outermost block, without a statement. -/
def empty : Blocks :=
  ⟨[], []⟩

/-- Opens a block within the innermost one. -/
def push (b : Blocks) : Blocks :=
  ⟨[], b.current :: b.outer⟩

/-- Adds a statement to the innermost block. -/
def add (b : Blocks) (statement : Tree) : Blocks :=
  ⟨statement :: b.current, b.outer⟩

/-- The innermost block as a tree. -/
def tree (b : Blocks) : Tree :=
  .compound b.current.reverse

end Blocks

/-- The states of reading a program. -/
inductive State where
  /-- Nothing has been read. -/
  | start
  /-- A statement is to come, if only the empty one. -/
  | statement (blocks : Blocks)
  /-- The name to assign to has been read. -/
  | target (name : String) (blocks : Blocks)
  /-- The expression of an assignment is being read. -/
  | value (name : String) (expression : Expression.State) (blocks : Blocks)
  /-- A block within a block has been read. -/
  | closed (block : Tree) (blocks : Blocks)
  /-- The outermost block has been read. -/
  | period (program : Tree)
  /-- The program has been read. -/
  | finished (program : Tree)
deriving DecidableEq, Repr

namespace State

/-- Takes or refuses a token after a statement: the statement joins the innermost block, which goes
on after a semicolon and closes at its end. -/
def afterStatement (blocks : Blocks) (statement : Tree) : Terminal → Except Refusal State
  | .semicolon => .ok (.statement (blocks.add statement))
  | .blockEnd =>
    let block := (blocks.add statement).tree
    match blocks.outer with
    | [] => .ok (period block)
    | current :: outer => .ok (closed block ⟨current, outer⟩)
  | _ => .error (.expected .blockEnd)

/-- Takes or refuses a token. A token that the expression of an assignment refuses ends the
assignment, if the expression may end. -/
def step : State → Terminal → Except Refusal State
  | start, .blockBegin _ => .ok (statement .empty)
  | start, _ => .error (.expected .blockBegin)
  | statement blocks, .blockBegin _ => .ok (statement blocks.push)
  | statement blocks, .name name => .ok (target name blocks)
  | statement blocks, terminal => afterStatement blocks .noop terminal
  | target name blocks, .assign => .ok (value name .start blocks)
  | target _ _, _ => .error (.expected .assign)
  | value name expression blocks, terminal =>
    match expression.step terminal, expression.finish with
    | .ok expression, _ => .ok (value name expression blocks)
    | .error _, .ok tree => afterStatement blocks (.assign name tree) terminal
    | .error refusal, .error _ => .error refusal
  | closed block blocks, terminal => afterStatement blocks block terminal
  | period program, .period => .ok (finished program)
  | period _, _ => .error (.expected .period)
  | finished _, _ => .error (.expected .endOfInput)

/-- The program that has been read, if the text may end here. -/
def finish : State → Except Refusal Tree
  | start => .error (.expected .blockBegin)
  | statement _ => .error (.expected .blockEnd)
  | target _ _ => .error (.expected .assign)
  | value _ expression _ =>
    match expression.finish with
    | .ok _ => .error (.expected .blockEnd)
    | .error refusal => .error refusal
  | closed _ _ => .error (.expected .blockEnd)
  | period _ => .error (.expected .period)
  | finished program => .ok program

end State

/-- Reads a program and nothing after it. -/
def automaton : Automaton State where
  start := .start
  step := State.step
  finish := State.finish

end BlockLang.Program
