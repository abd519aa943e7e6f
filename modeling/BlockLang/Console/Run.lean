import BlockLang.Console.Arguments
import BlockLang.Console.Diagnostic
import BlockLang.Evaluation.Script
import BlockLang.Tree.Lisp
import BlockLang.Tree.Outline
import BlockLang.Tree.Postfix
import BlockLang.Tree.Source

set_option relaxedAutoImplicit false
set_option autoImplicit false

/-!
# A run of the command line

A run prints its result and ends with code 0, or reports an error, prints nothing and ends with code
1; a request that cannot be understood ends with code 2. Messages about what is being done go where
the errors go.

## Main definitions

* `BlockLang.Console.Environment` — what a run may read.
* `BlockLang.Console.Outcome` — what a run leaves.
* `BlockLang.Console.run` — a run.
-/

namespace BlockLang.Console

/-- What a run may read: its arguments, its standard input, and files by name. -/
structure Environment where
  args : List String
  stdin : ByteArray
  /-- The content of a file, or the reason why it cannot be had. -/
  file : String → Except String ByteArray

/-- What a run leaves: its exit code and what it printed. -/
structure Outcome where
  exit : Nat
  stdout : String
  stderr : String
deriving DecidableEq, Repr

/-- The reason given for a file that does not exist. -/
def noSuchFile : String :=
  "No such file or directory (os error 2)"

/-- The reason given for content that is no text. -/
def notText : String :=
  "stream did not contain valid UTF-8"

/-- Content as text. -/
def decode (content : ByteArray) : Except String String :=
  match String.fromUTF8? content with
  | some text => .ok text
  | none => .error notText

namespace Origin

/-- An origin in messages. -/
def name : Origin → String
  | expression _ => "<expr>"
  | file name => name
  | stdin => "<stdin>"

/-- The text from an origin, or an error message. -/
def read (env : Environment) : Origin → Except String String
  | expression text => .ok text
  | file name =>
    (env.file name >>= decode).mapError fun reason =>
      "Failed to open file " ++ name ++ ": " ++ reason
  | stdin => decode env.stdin

/-- The text from an origin as something to run. -/
def script (origin : Origin) (text : String) : Script :=
  match origin with
  | expression _ => .expression text
  | file _ | stdin => .program text

end Origin

/-- The variables of a table, one a line. -/
def listing (s : Store) : String :=
  String.join (s.toList.map fun entry => line (entry.1 ++ " = " ++ Decimal.ofInt64 entry.2))

namespace Task

/-- What evaluating a tree prints: the value of an expression, the variables of a program. -/
def evaluation (task : Task) (t : Tree) : Except EvalError String :=
  match t.run ∅, task.origin with
  | (.ok value, _), .expression _ => .ok (line (Decimal.ofInt64 value))
  | (.ok _, s), _ => .ok (listing s)
  | (.error error, _), _ => .error error

/-- What a task prints for a tree. -/
def print (task : Task) (t : Tree) : Except EvalError String :=
  match task.mode, task.origin with
  | .ast, _ => .ok (line t.outline.pretty)
  | .lisp, _ => .ok (line t.lisp)
  | .rpn, _ => .ok (line t.rpn)
  | .source, .expression _ => .ok (line t.source)
  | .source, _ => .ok (line t.programSource)
  | .run, _ => task.evaluation t

/-- A message about what is being done, if messages are asked for. -/
def info (task : Task) (message : String) : String :=
  if task.verbose then line ("[INFO] " ++ message) else ""

/-- Says that a text is being parsed. -/
def parsingInfo (task : Task) (text : String) : String :=
  task.info ("Parsing " ++ task.origin.name ++ " (" ++ toString text.length ++ " chars)")

/-- Says that the text has been parsed. -/
def parsedInfo (task : Task) : String :=
  task.info ("Parsed successfully, mode: " ++ task.mode.name)

/-- Does a task. -/
def perform (task : Task) (env : Environment) : Outcome :=
  match task.origin.read env with
  | .error message => ⟨1, "", errorLine message⟩
  | .ok text =>
    match (task.origin.script text).parse with
    | .error error =>
      ⟨1, "", task.parsingInfo text ++ diagnostic task.origin.name text error⟩
    | .ok t =>
      match task.print t with
      | .error error =>
        ⟨1, "", task.parsingInfo text ++ task.parsedInfo ++ errorLine error.message⟩
      | .ok output => ⟨0, output, task.parsingInfo text ++ task.parsedInfo⟩

end Task

/-- The program's name and version. -/
def version : String :=
  "pascal_parser 0.1.0"

/-- A run of the command line. -/
def run (env : Environment) : Outcome :=
  match Request.ofArguments env.args with
  | .misuse => ⟨2, "", ""⟩
  | .version => ⟨0, line version, ""⟩
  | .task task => task.perform env

end BlockLang.Console
