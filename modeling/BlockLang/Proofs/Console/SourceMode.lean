import BlockLang.Proofs.Console.Arguments
import BlockLang.Proofs.Console.Outcome
import BlockLang.Proofs.Tree.Reparse

set_option relaxedAutoImplicit false
set_option autoImplicit false

/-!
# Working on printed source text

The mode that prints source text writes a text in a normal form. Whatever is asked of that text has
the same outcome as if it was asked of the text itself, for it parses to the same tree, and what a
run leaves depends on nothing but the tree and whether it is one of a program or of an expression.

## Main results

* `BlockLang.parse_line`, `BlockLang.parseExpr_line` — a text and its line's end.
* `BlockLang.Tree.IsExpression.head?_source_ne` — the text of an expression begins with no dash.
* `BlockLang.Console.Task.perform_congr` — tasks that come to the same tree.
* `BlockLang.Console.run_printed_program`, `BlockLang.Console.run_printed_expression` — runs on what
  is printed.
* `BlockLang.Console.printed_source_same_outcome` — the printed text in place of the text.
-/

namespace BlockLang

/-! ## Printed source text -/

/-- A line's end is read as nothing. -/
lemma Wording.line {text : String} {toks : List Token} (h : Wording [] text.toList toks) :
    Wording [] (Console.line text).toList toks := by
  have hblank : isBlank '\n' = true := isBlank_of_isWhitespace rfl
  have hend : Wording [] ['\n'] [] := .blanks (by simpa [Blanks] using hblank)
  have hline := (h.before_blank hblank).append hend
  rw [List.append_nil] at hline
  simpa [Console.line] using hline

/-- A program may end a line. -/
lemma parse_line {text : String} {t : Tree} (h : parse text = .ok t) :
    parse (Console.line text) = .ok t := by
  obtain ⟨toks, hwording, hderives⟩ := parse_eq_ok_iff.1 h
  exact parse_eq_ok_iff.2 ⟨toks, hwording.line, hderives⟩

/-- An expression may end a line. -/
lemma parseExpr_line {text : String} {t : Tree} (h : parseExpr text = .ok t) :
    parseExpr (Console.line text) = .ok t := by
  obtain ⟨toks, hwording, hderives⟩ := parseExpr_eq_ok_iff.1 h
  exact parseExpr_eq_ok_iff.2 ⟨toks, hwording.line, hderives⟩

namespace Tree

/-- The source text of an expression begins with a digit, a letter or a bracket, and so not with a
dash. -/
lemma IsExpression.head?_source_ne {t : Tree} (h : t.IsExpression) :
    t.source.toList.head? ≠ some '-' := by
  intro hhead
  cases h with
  | @num v hv =>
    rw [source, Decimal.ofInt64, Decimal.ofInt, if_neg (by omega), String.toList_ofList] at hhead
    have hdigit := Decimal.isDigit_of_mem_digits (List.mem_of_head? hhead)
    cases hdigit
  | var hname =>
    obtain ⟨c, cs, hchars, hletter, -⟩ := hname
    have hdash : isLetter '-' = false := isLetter_eq_isAlpha (by decide)
    rw [source, hchars, List.head?_cons, Option.some.injEq] at hhead
    rw [hhead, hdash] at hletter
    cases hletter
  | unary he => simp [source] at hhead
  | binary hl hr => simp [source] at hhead

end Tree

namespace Console

/-! ## Tasks that come to the same tree -/

/-- Without messages, tasks leave the same if they come to the same tree and print the same for
it. -/
theorem Task.perform_congr {env env' : Environment} {origin origin' : Origin} {mode : Mode}
    {text text' : String} {t : Tree} (htext : origin.Provides env text)
    (htext' : origin'.Provides env' text') (hparse : origin.parser text = .ok t)
    (hparse' : origin'.parser text' = .ok t)
    (hprint : print ⟨origin', mode, false⟩ t = print ⟨origin, mode, false⟩ t) :
    perform ⟨origin', mode, false⟩ env' = perform ⟨origin, mode, false⟩ env := by
  rw [perform_quiet htext hparse, perform_quiet htext' hparse', hprint]

/-- What is printed for an expression does not depend on how it is written. -/
lemma Task.print_expression_eq (text text' : String) (mode : Mode) (t : Tree) :
    print ⟨.expression text', mode, false⟩ t = print ⟨.expression text, mode, false⟩ t := by
  cases mode with
  | run => rw [print_expression, print_expression]
  | ast | lisp | rpn | source => rfl

/-! ## Printing source text -/

variable {text : String} {t : Tree} {args : List String} {mode : Mode} (stdin : ByteArray)
  (file : String → Except String ByteArray)

lemma run_source_program (h : parse text = .ok t) :
    run ⟨["-m", "source"], text.toUTF8, file⟩ = ⟨0, line t.programSource, ""⟩ := by
  have htask : Request.ofArguments ["-m", "source"] = .task ⟨.stdin, .source, false⟩ := rfl
  rw [run, htask]
  exact Task.perform_quiet rfl h

lemma run_source_expression (h : parseExpr text = .ok t) :
    run ⟨["--expr=" ++ text, "--mode=source"], stdin, file⟩ = ⟨0, line t.source, ""⟩ := by
  have htask : Request.ofArguments ["--mode=source"] = .task ⟨.stdin, .source, false⟩ := rfl
  rw [run, Request.ofArguments_expr text htask]
  exact Task.perform_quiet rfl h

/-- What is printed for a program is parsed to its tree. -/
lemma parse_printed (h : parse text = .ok t) : parse (line t.programSource) = .ok t := by
  obtain ⟨hstatement, children, rfl⟩ := isStatement_of_parse h
  exact parse_line (parse_programSource hstatement)

/-- What is printed for an expression is parsed to its tree. -/
lemma parseExpr_printed (h : parseExpr text = .ok t) : parseExpr (line t.source) = .ok t :=
  parseExpr_line (parseExpr_source (isExpression_of_parseExpr h))

/-- What is printed for an expression begins with no dash. -/
lemma head?_printed_ne (h : parseExpr text = .ok t) :
    (line t.source).toList.head? ≠ some '-' := by
  have hsource := (isExpression_of_parseExpr h).head?_source_ne
  rw [line, String.toList_append, ne_eq, List.head?_append, Option.or_eq_some_iff]
  rintro (hdash | ⟨-, hdash⟩)
  · exact hsource hdash
  · cases hdash

/-- A run on what is printed for a program. -/
lemma run_printed_program (h : parse text = .ok t)
    (htask : Request.ofArguments args = .task ⟨.stdin, mode, false⟩) :
    run ⟨args, (line t.programSource).toUTF8, file⟩ = run ⟨args, text.toUTF8, file⟩ := by
  rw [run, run, htask]
  exact Task.perform_congr rfl rfl h (parse_printed h) rfl

/-- A run on what is printed for an expression, in an argument of its own. -/
lemma run_printed_expression (h : parseExpr text = .ok t)
    (htask : Request.ofArguments args = .task ⟨.stdin, mode, false⟩) :
    run ⟨"-e" :: line t.source :: args, stdin, file⟩ =
      run ⟨("--expr=" ++ text) :: args, stdin, file⟩ := by
  rw [run, run, Request.ofArguments_e (head?_printed_ne h) htask,
    Request.ofArguments_expr text htask]
  exact Task.perform_congr rfl rfl h (parseExpr_printed h) (Task.print_expression_eq text _ mode t)

/-- **Printed source text in place of a text.** Take what is printed for a program in the mode that
prints its source text. Without messages, all modes leave the same for it as for the program, and
this mode prints it again. For an expression it is the same, and what is printed begins with no
dash, so that it may be given in an argument of its own. -/
theorem printed_source_same_outcome :
    (∀ text t, parse text = .ok t →
      let printed := (run ⟨["-m", "source"], text.toUTF8, file⟩).stdout
      (∀ args mode, Request.ofArguments args = .task ⟨.stdin, mode, false⟩ →
        run ⟨args, printed.toUTF8, file⟩ = run ⟨args, text.toUTF8, file⟩) ∧
      run ⟨["-m", "source"], printed.toUTF8, file⟩ = ⟨0, printed, ""⟩) ∧
    (∀ text t, parseExpr text = .ok t →
      let printed := (run ⟨["--expr=" ++ text, "--mode=source"], stdin, file⟩).stdout
      printed.toList.head? ≠ some '-' ∧
      ∀ args mode, Request.ofArguments args = .task ⟨.stdin, mode, false⟩ →
        Request.ofArguments ("-e" :: printed :: args) =
          .task ⟨.expression printed, mode, false⟩ ∧
        run ⟨"-e" :: printed :: args, stdin, file⟩ =
          run ⟨("--expr=" ++ text) :: args, stdin, file⟩) ∧
    ∀ mode, ∃ name, Request.ofArguments ["-m", name] = .task ⟨.stdin, mode, false⟩ := by
  refine ⟨fun text t hparse => ?_, fun text t hparse => ?_, Request.exists_mode_argument⟩
  · intro printed
    have hprinted : printed = line t.programSource := by
      simp only [printed, run_source_program file hparse]
    rw [hprinted]
    exact ⟨fun args mode htask => run_printed_program file hparse htask,
      run_source_program file (parse_printed hparse)⟩
  · intro printed
    have hprinted : printed = line t.source := by
      simp only [printed, run_source_expression stdin file hparse]
    rw [hprinted]
    have hhead := head?_printed_ne hparse
    exact ⟨hhead, fun args mode htask => ⟨Request.ofArguments_e hhead htask,
      run_printed_expression stdin file hparse htask⟩⟩

/-- What is printed for a program overflows as the program does, and what is printed for an
expression that begins with a dash may be given in an argument of its own and overflows as well. -/
theorem printed_source_same_outcome_overflow :
    let env (args : List String) (text : String) : Environment :=
      ⟨args, text.toUTF8, fun _ => .error noSuchFile⟩
    run (env ["-m", "run"] "BEGIN x := 9223372036854775807; y := (x - (-1)) END.\n") =
      run (env ["-m", "run"] "begin x:=9223372036854775807;y:=x--1 end.") ∧
    run (env ["-e", "((-9223372036854775807) - 2)\n", "-m", "run"] "") =
      run (env ["--expr=-9223372036854775807-2", "-m", "run"] "") ∧
    run (env ["--expr=-9223372036854775807-2", "-m", "run"] "") =
      ⟨1, "", errorLine "Arithmetic overflow in `-9223372036854775807 - 2`"⟩ := by
  intro env
  have htask : Request.ofArguments ["-m", "run"] = .task ⟨.stdin, .run, false⟩ := by decide +kernel
  have hparse : parse "begin x:=9223372036854775807;y:=x--1 end." =
      .ok (.compound [.assign "x" (.num 9223372036854775807),
        .assign "y" (.binary (.var "x") .minus (.unary .minus (.num 1)))]) := by decide +kernel
  have hparseExpr : parseExpr "-9223372036854775807-2" =
      .ok (.binary (.unary .minus (.num 9223372036854775807)) .minus (.num 2)) := by decide +kernel
  have hsame := printed_source_same_outcome "".toUTF8 fun _ => .error noSuchFile
  have hprogram := (hsame.1 _ _ hparse).1 ["-m", "run"] .run htask
  have hexpression := ((hsame.2.1 _ _ hparseExpr).2 ["-m", "run"] .run htask).2
  have hprinted : (run (env ["-m", "source"] "begin x:=9223372036854775807;y:=x--1 end.")).stdout =
      "BEGIN x := 9223372036854775807; y := (x - (-1)) END.\n" := by decide +kernel
  have hprinted' : (run (env ["--expr=-9223372036854775807-2", "--mode=source"] "")).stdout =
      "((-9223372036854775807) - 2)\n" := by decide +kernel
  refine ⟨hprinted ▸ hprogram, hprinted' ▸ hexpression, ?_⟩
  decide +kernel

end Console

end BlockLang
