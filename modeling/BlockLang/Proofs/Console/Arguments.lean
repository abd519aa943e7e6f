import BlockLang.Console.Arguments
import Mathlib.Tactic.Common

set_option relaxedAutoImplicit false
set_option autoImplicit false

/-!
# An expression before other arguments

Arguments that give no expression can be put after one that does. They ask for the same as before,
but for the expression and not for what comes in.

## Main definitions

* `BlockLang.Console.Options.withExpression` — options, and an expression besides.

## Main results

* `BlockLang.Console.Options.read_withExpression` — arguments that give no expression leave alone
  the one that is there.
* `BlockLang.Console.Request.ofArguments_expr`, `BlockLang.Console.Request.ofArguments_e` — what
  arguments ask for after the two forms of giving an expression.
* `BlockLang.Console.Request.exists_mode_argument` — arguments for every mode.
-/

namespace BlockLang.Console

namespace Options

/-! ## Reading with an expression in place -/

/-- The options, and the expression besides. -/
def withExpression (o : Options) (text : String) : Options :=
  { o with expression? := some text }

variable {o o' : Options} {due : Option Valued} (text : String)

/-- A step and what follows it both come to something if they do so together. -/
lemma exists_ok_of_bind {α β : Type} {r : Except Stop α} {f : α → Except Stop β} {b : β}
    (h : r >>= f = .ok b) : ∃ a, r = .ok a ∧ f a = .ok b := by
  cases r with
  | error => cases h
  | ok a => exact ⟨a, rfl, h⟩

/-- Options from which no option is left without its value. -/
lemma eq_ok_of_map {r : Except Stop Options} (h : r.map (·, none) = .ok (o', due)) :
    r = .ok o' ∧ due = none := by
  cases r with
  | error => cases h
  | ok =>
    cases h
    exact ⟨rfl, rfl⟩

lemma set_withExpression {value : String} {option : Valued} (h : o.set value option = .ok o')
    (hnone : o'.expression? = none) : o.expression? = none ∧
      (o.withExpression text).set value option = .ok (o'.withExpression text) := by
  cases option with
  | expression =>
    -- This would leave an expression in the options.
    rw [set] at h
    split at h
    · cases h
    · cases h
      cases hnone
  | mode => grind [set, withExpression]

lemma setVerbose_withExpression (h : o.setVerbose = .ok o') (hnone : o'.expression? = none) :
    o.expression? = none ∧ (o.withExpression text).setVerbose = .ok (o'.withExpression text) := by
  grind [setVerbose, withExpression]

lemma setFile_withExpression {name : String} (h : o.setFile name = .ok o')
    (hnone : o'.expression? = none) :
    o.expression? = none ∧ (o.withExpression text).setFile name = .ok (o'.withExpression text) := by
  grind [setFile, withExpression]

lemma setLong_withExpression {option : Valued} {value? : Option String}
    (h : o.setLong option value? = .ok (o', due)) (hnone : o'.expression? = none) :
    o.expression? = none ∧
      (o.withExpression text).setLong option value? = .ok (o'.withExpression text, due) := by
  cases value? with
  | none =>
    cases h
    exact ⟨hnone, rfl⟩
  | some value =>
    rw [setLong] at h ⊢
    obtain ⟨hset, rfl⟩ := eq_ok_of_map h
    obtain ⟨hfirst, hset'⟩ := set_withExpression text hset hnone
    exact ⟨hfirst, by rw [hset']; rfl⟩

/-- A value right after a short option is given like one after a long option. -/
lemma exists_setAttached_eq (option : Valued) (chars : List Char) :
    ∃ value?, ∀ o : Options, o.setAttached option chars = o.setLong option value? := by
  match chars with
  | [] => exact ⟨none, fun o => rfl⟩
  | c :: cs =>
    by_cases hc : c = '='
    · subst hc
      exact ⟨some (String.ofList cs), fun o => rfl⟩
    · refine ⟨some (String.ofList (c :: cs)), fun o => ?_⟩
      -- An equals sign in front of the value would be dropped, but there is none.
      rw [setAttached, setLong]
      · simp
      · intro value h
        exact hc (List.cons.inj h).1

lemma readShort_withExpression {chars : List Char} (h : o.readShort chars = .ok (o', due))
    (hnone : o'.expression? = none) : o.expression? = none ∧
      (o.withExpression text).readShort chars = .ok (o'.withExpression text, due) := by
  fun_induction readShort o chars with
  | case1 o =>
    cases h
    exact ⟨hnone, rfl⟩
  | case2 o rest ih =>
    obtain ⟨p, hset, h⟩ := exists_ok_of_bind h
    obtain ⟨hlater, hrest⟩ := ih p h
    obtain ⟨hfirst, hset'⟩ := setVerbose_withExpression text hset hlater
    refine ⟨hfirst, ?_⟩
    rw [readShort, hset']
    exact hrest
  | case3 => cases h
  | case4 o rest =>
    obtain ⟨value?, heq⟩ := exists_setAttached_eq .expression rest
    rw [heq] at h
    rw [readShort, heq]
    exact setLong_withExpression text h hnone
  | case5 o rest =>
    obtain ⟨value?, heq⟩ := exists_setAttached_eq .mode rest
    rw [heq] at h
    rw [readShort, heq]
    exact setLong_withExpression text h hnone
  | case6 => cases h

lemma readLong_withExpression {name : String} {value? : Option String}
    (h : o.readLong name value? = .ok (o', due)) (hnone : o'.expression? = none) :
    o.expression? = none ∧
      (o.withExpression text).readLong name value? = .ok (o'.withExpression text, due) := by
  unfold readLong at h ⊢
  split at h
  · exact setLong_withExpression text h hnone
  · exact setLong_withExpression text h hnone
  · obtain ⟨hset, rfl⟩ := eq_ok_of_map h
    obtain ⟨hfirst, hset'⟩ := setVerbose_withExpression text hset hnone
    exact ⟨hfirst, by rw [hset']; rfl⟩
  · cases h
  · cases h

/-- Files that are named after the end of the options. -/
lemma foldlM_setFile_withExpression {names : List String} (h : names.foldlM setFile o = .ok o')
    (hnone : o'.expression? = none) : o.expression? = none ∧
      names.foldlM setFile (o.withExpression text) = .ok (o'.withExpression text) := by
  induction names generalizing o with
  | nil =>
    cases h
    exact ⟨hnone, rfl⟩
  | cons name names ih =>
    rw [List.foldlM_cons] at h ⊢
    obtain ⟨p, hset, h⟩ := exists_ok_of_bind h
    obtain ⟨hlater, hrest⟩ := ih h
    obtain ⟨hfirst, hset'⟩ := setFile_withExpression text hset hlater
    refine ⟨hfirst, ?_⟩
    rw [hset']
    exact hrest

/-- **An expression stays in place.** If arguments are read without coming to an expression, then
they are read in the same way where an expression has already been given.

**Proof sketch.** Induction on the arguments. What each of them does to the options does not look at
the expression, unless it gives one itself; and one that is given is never taken back. -/
theorem read_withExpression {args : List String} (h : o.read due args = .ok o')
    (hnone : o'.expression? = none) : o.expression? = none ∧
      (o.withExpression text).read due args = .ok (o'.withExpression text) := by
  fun_induction read o due args with
  | case1 o due hdue => cases h
  | case2 o due hdue =>
    cases h
    exact ⟨hnone, by rw [read, if_neg hdue]⟩
  | case3 o arg args option value harg ih =>
    obtain ⟨p, hset, h⟩ := exists_ok_of_bind h
    obtain ⟨hlater, hrest⟩ := ih p h
    obtain ⟨hfirst, hset'⟩ := set_withExpression text hset hlater
    refine ⟨hfirst, ?_⟩
    simp only [read, harg, hset']
    exact hrest
  | case4 => cases h
  | case5 o arg args name harg ih =>
    obtain ⟨p, hset, h⟩ := exists_ok_of_bind h
    obtain ⟨hlater, hrest⟩ := ih p h
    obtain ⟨hfirst, hset'⟩ := setFile_withExpression text hset hlater
    refine ⟨hfirst, ?_⟩
    simp only [read, harg, hset']
    exact hrest
  | case6 o arg args harg =>
    obtain ⟨hfirst, hfiles⟩ := foldlM_setFile_withExpression text h hnone
    exact ⟨hfirst, by simp only [read, harg, hfiles]⟩
  | case7 o arg args options harg ih =>
    obtain ⟨⟨p, due⟩, hset, h⟩ := exists_ok_of_bind h
    obtain ⟨hlater, hrest⟩ := ih p due h
    obtain ⟨hfirst, hset'⟩ := readShort_withExpression text hset hlater
    refine ⟨hfirst, ?_⟩
    simp only [read, harg, hset']
    exact hrest
  | case8 o arg args name value? harg ih =>
    obtain ⟨⟨p, due⟩, hset, h⟩ := exists_ok_of_bind h
    obtain ⟨hlater, hrest⟩ := ih p due h
    obtain ⟨hfirst, hset'⟩ := readLong_withExpression text hset hlater
    refine ⟨hfirst, ?_⟩
    simp only [read, harg, hset']
    exact hrest

end Options

/-! ## Arguments that give an expression -/

namespace Argument

/-- A text that does not begin with a dash is no option. -/
lemma ofString_of_head? {text : String} (h : text.toList.head? ≠ some '-') :
    ofString text = .operand text := by
  rw [ofString]
  split
  · next heq => exact absurd (by rw [heq]; rfl) h
  · next heq => exact absurd (by rw [heq]; rfl) h
  · next heq => exact absurd (by rw [heq]; rfl) h
  · rfl

/-- The value of the option stands after the first equals sign, even if it has one in it. -/
lemma ofString_expr (text : String) :
    ofString ("--expr=" ++ text) = .long "expr" (some text) := by
  have hchars : ("--expr=" ++ text).toList =
      '-' :: '-' :: 'e' :: 'x' :: 'p' :: 'r' :: '=' :: text.toList := by simp
  rw [ofString, hchars]
  simp

end Argument

namespace Request

variable {args : List String} {mode : Mode} {verbose : Bool} {text : String}

/-- Arguments that ask to work on what comes in give neither an expression nor a file. -/
lemma exists_options_of_stdin (h : ofArguments args = .task ⟨.stdin, mode, verbose⟩) :
    ∃ o, Options.empty.read none args = .ok o ∧ o.expression? = none ∧
      ∀ text, (o.withExpression text).request = .task ⟨.expression text, mode, verbose⟩ := by
  rw [ofArguments] at h
  split at h
  · cases h
  · cases h
  · next o hread =>
    obtain ⟨expression?, file?, mode?, verbose'⟩ := o
    cases expression? <;> cases file? <;> cases h
    exact ⟨_, hread, rfl, fun text => rfl⟩

/-- Arguments that ask to work on what comes in ask to work on an expression that is given before
them. -/
theorem ofArguments_expr (text : String) (h : ofArguments args = .task ⟨.stdin, mode, verbose⟩) :
    ofArguments (("--expr=" ++ text) :: args) = .task ⟨.expression text, mode, verbose⟩ := by
  obtain ⟨o, hread, hnone, hrequest⟩ := exists_options_of_stdin h
  have hrest := (Options.read_withExpression text hread hnone).2
  have hread' : Options.empty.read none (("--expr=" ++ text) :: args) =
      .ok (o.withExpression text) := by
    simp only [Options.read, Argument.ofString_expr]
    exact hrest
  rw [ofArguments, hread']
  exact hrequest text

/-- The same with the expression in an argument of its own, where it may not begin with a dash. -/
theorem ofArguments_e (htext : text.toList.head? ≠ some '-')
    (h : ofArguments args = .task ⟨.stdin, mode, verbose⟩) :
    ofArguments ("-e" :: text :: args) = .task ⟨.expression text, mode, verbose⟩ := by
  obtain ⟨o, hread, hnone, hrequest⟩ := exists_options_of_stdin h
  have hrest := (Options.read_withExpression text hread hnone).2
  have hoption : Argument.ofString "-e" = .short ['e'] := rfl
  have hread' : Options.empty.read none ("-e" :: text :: args) = .ok (o.withExpression text) := by
    simp only [Options.read, hoption, Argument.ofString_of_head? htext]
    exact hrest
  rw [ofArguments, hread']
  exact hrequest text

/-- Every mode can be asked for. -/
lemma exists_mode_argument (mode : Mode) :
    ∃ name, ofArguments ["-m", name] = .task ⟨.stdin, mode, false⟩ := by
  cases mode with
  | ast => exact ⟨"ast", rfl⟩
  | lisp => exact ⟨"lisp", rfl⟩
  | rpn => exact ⟨"rpn", rfl⟩
  | source => exact ⟨"source", rfl⟩
  | run => exact ⟨"run", rfl⟩

end Request

end BlockLang.Console
