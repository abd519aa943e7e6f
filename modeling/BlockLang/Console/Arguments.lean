set_option relaxedAutoImplicit false
set_option autoImplicit false

/-!
# Command-line arguments

The arguments are read from left to right, and reading stops at the first that is wrong or that asks
for the version. Options are

* `-e VALUE`, `--expr VALUE` — an expression to work on;
* `-m VALUE`, `--mode VALUE` — what to do with it;
* `-v`, `--verbose` — say what is being done;
* `-V`, `--version` — print the version and do nothing else.

Short options may share one dash. A value follows in the next argument, after an equals sign, or
right after a short option; in the next argument it may not begin with a dash, unless it is nothing
else. Two dashes end the options. Any other argument names a file, of which there may be one, and
none beside an expression. No option may be given twice.

## Main definitions

* `BlockLang.Console.Mode` — what to do.
* `BlockLang.Console.Task`, `BlockLang.Console.Request` — what the arguments ask for.
* `BlockLang.Console.Request.ofArguments` — reads the arguments.
-/

namespace BlockLang.Console

/-- What to do with a tree. -/
inductive Mode where
  /-- Print its outline. -/
  | ast
  /-- Print it as a bracketed list. -/
  | lisp
  /-- Print it in reverse Polish notation. -/
  | rpn
  /-- Print its text. -/
  | source
  /-- Evaluate it. -/
  | run
deriving DecidableEq, Repr

/-- The mode that an argument names. -/
def Mode.ofString? : String → Option Mode
  | "ast" => some ast
  | "lisp" => some lisp
  | "rpn" => some rpn
  | "source" => some source
  | "run" => some run
  | _ => none

/-- The name of a mode in messages. -/
def Mode.name : Mode → String
  | ast => "Ast"
  | lisp => "Lisp"
  | rpn => "Rpn"
  | source => "Source"
  | run => "Run"

/-- Where the text to work on comes from. -/
inductive Origin where
  | expression (text : String)
  | file (name : String)
  | stdin
deriving DecidableEq, Repr

/-- Work to do. -/
structure Task where
  origin : Origin
  mode : Mode
  verbose : Bool
deriving DecidableEq, Repr

/-- What the arguments ask for. -/
inductive Request where
  /-- They cannot be understood. -/
  | misuse
  | version
  | task (task : Task)
deriving DecidableEq, Repr

/-! ## Options -/

/-- The options so far. -/
structure Options where
  expression? : Option String
  file? : Option String
  mode? : Option Mode
  verbose : Bool
deriving DecidableEq, Repr

/-- The options that take a value. -/
inductive Valued where
  | expression
  | mode
deriving DecidableEq, Repr

/-- Why reading the arguments stops before the last. -/
inductive Stop where
  | misuse
  | version
deriving DecidableEq, Repr

namespace Options

/-- No option is given. -/
def empty : Options :=
  ⟨none, none, none, false⟩

/-- Gives an option its value. -/
def set (o : Options) (value : String) : Valued → Except Stop Options
  | .expression =>
    if o.expression?.isSome then .error .misuse
    else .ok { o with expression? := some value }
  | .mode =>
    match o.mode?, Mode.ofString? value with
    | none, some mode => .ok { o with mode? := some mode }
    | _, _ => .error .misuse

/-- Asks for messages. -/
def setVerbose (o : Options) : Except Stop Options :=
  if o.verbose then .error .misuse else .ok { o with verbose := true }

/-- Names the file to work on. -/
def setFile (o : Options) (name : String) : Except Stop Options :=
  if o.file?.isSome ∨ name = "" then .error .misuse else .ok { o with file? := some name }

/-- Reads what follows a short option that takes a value: its value, after an equals sign if there
is one. If nothing follows, the option still needs its value. -/
def setAttached (o : Options) (option : Valued) :
    List Char → Except Stop (Options × Option Valued)
  | [] => .ok (o, some option)
  | '=' :: value => (o.set (String.ofList value) option).map (·, none)
  | value => (o.set (String.ofList value) option).map (·, none)

/-- Reads short options that share a dash. The last may still need its value. -/
def readShort (o : Options) : List Char → Except Stop (Options × Option Valued)
  | [] => .ok (o, none)
  | 'v' :: rest => do (← o.setVerbose).readShort rest
  | 'V' :: _ => .error .version
  | 'e' :: rest => o.setAttached .expression rest
  | 'm' :: rest => o.setAttached .mode rest
  | _ => .error .misuse

/-- Gives a long option its value, if it stands after an equals sign. -/
def setLong (o : Options) (option : Valued) :
    Option String → Except Stop (Options × Option Valued)
  | some value => (o.set value option).map (·, none)
  | none => .ok (o, some option)

/-- Reads a long option with the value after its equals sign. It may still need its value. -/
def readLong (o : Options) (name : String) (value? : Option String) :
    Except Stop (Options × Option Valued) :=
  match name, value? with
  | "expr", value? => o.setLong .expression value?
  | "mode", value? => o.setLong .mode value?
  | "verbose", none => o.setVerbose.map (·, none)
  | "version", none => .error .version
  | _, _ => .error .misuse

end Options

/-! ## Arguments -/

/-- What an argument is, where no value is due. -/
inductive Argument where
  | operand (text : String)
  | short (options : List Char)
  | long (name : String) (value? : Option String)
  | endOfOptions
deriving DecidableEq, Repr

/-- What an argument is. A single dash is no option. -/
def Argument.ofString (arg : String) : Argument :=
  match arg.toList with
  | ['-', '-'] => endOfOptions
  | '-' :: '-' :: cs =>
    let name := cs.takeWhile (· ≠ '=')
    match cs.dropWhile (· ≠ '=') with
    | [] => long (String.ofList name) none
    | _ :: value => long (String.ofList name) (some (String.ofList value))
  | '-' :: c :: cs => short (c :: cs)
  | _ => operand arg

namespace Options

/-- Reads the arguments after the given options; `due` is an option that needs its value. -/
def read (o : Options) (due : Option Valued) : List String → Except Stop Options
  | [] => if due.isSome then .error .misuse else .ok o
  | arg :: args =>
    match due, Argument.ofString arg with
    | some option, .operand value => do (← o.set value option).read none args
    | some _, _ => .error .misuse
    | none, .operand name => do (← o.setFile name).read none args
    | none, .endOfOptions => args.foldlM setFile o
    | none, .short options => do
      let (o, due) ← o.readShort options
      o.read due args
    | none, .long name value? => do
      let (o, due) ← o.readLong name value?
      o.read due args

/-- The work that the options ask for: on the expression, on the file, or else on what comes in. An
expression and a file exclude each other. -/
def request (o : Options) : Request :=
  let task origin := Request.task ⟨origin, o.mode?.getD .run, o.verbose⟩
  match o.expression?, o.file? with
  | some _, some _ => .misuse
  | some text, none => task (.expression text)
  | none, some name => task (.file name)
  | none, none => task .stdin

end Options

/-- What the arguments ask for. -/
def Request.ofArguments (args : List String) : Request :=
  match Options.empty.read none args with
  | .error .misuse => .misuse
  | .error .version => .version
  | .ok options => options.request

end BlockLang.Console
