import BlockLang.Evaluation.Run
import BlockLang.Grammar.Parse

set_option relaxedAutoImplicit false
set_option autoImplicit false

/-!
# Running texts

A script is something to run: the text of a program or of an expression, or a tree. Scripts may be
run in a row, each on the table that the one before it left.

## Main definitions

* `BlockLang.Failure` — why a script has no value.
* `BlockLang.Script`, `BlockLang.Script.run` — scripts, and what running one does to a table.
* `BlockLang.session` — scripts in a row.
* `BlockLang.execute` — the table that a program leaves.
* `BlockLang.evaluate` — the value of an expression without variables.
-/

namespace BlockLang

/-- Why a script has no value: it does not parse, or its evaluation fails. -/
inductive Failure where
  | parse (error : ParseError)
  | evaluation (error : EvalError)
deriving DecidableEq, Repr

/-- The failure as its reader sees it. -/
def Failure.message : Failure → String
  | parse error => "Parse error: " ++ error.message
  | evaluation error => "Runtime error: " ++ error.message

/-- Something to run. -/
inductive Script where
  | program (text : String)
  | expression (text : String)
  | tree (tree : Tree)
deriving DecidableEq, Repr

namespace Script

/-- The tree of a script, or the first error in its text. -/
def parse : Script → Except ParseError Tree
  | program text => BlockLang.parse text
  | expression text => BlockLang.parseExpr text
  | tree t => .ok t

/-- The value of a script or why it has none, and the table afterwards. A script that does not parse
leaves the table alone. -/
def run (script : Script) (s : Store) : Except Failure Int64 × Store :=
  match script.parse with
  | .error error => (.error (.parse error), s)
  | .ok t =>
    match t.run s with
    | (.ok value, s') => (.ok value, s')
    | (.error error, s') => (.error (.evaluation error), s')

end Script

/-- Runs scripts in a row, each on the table that the one before it left. -/
def session (s : Store) : List Script → List (Except Failure Int64 × Store)
  | [] => []
  | script :: scripts => script.run s :: session (script.run s).2 scripts

/-- The table that a program leaves if it starts with none. -/
def execute (text : String) : Except Failure Store :=
  match (Script.program text).run ∅ with
  | (.ok _, s) => .ok s
  | (.error failure, _) => .error failure

/-- The value of an expression, which may use no variables. -/
def evaluate (text : String) : Except Failure Int64 :=
  ((Script.expression text).run ∅).1

end BlockLang
