import BlockLang.Evaluation.Script
import BlockLang.Proofs.Evaluation.Exact
import BlockLang.Proofs.Tree.Printable

set_option relaxedAutoImplicit false
set_option autoImplicit false

/-!
# Programs as lists of assignments

What a program does to a table is told by its assignments alone, in the order in which they stand in
the text: blocks and empty statements do nothing of their own. They are performed one after the
other, up to the first whose expression fails, and that one leaves no trace.

## Main definitions

* `BlockLang.Tree.assignments` — the assignments of a program, in order.
* `BlockLang.Performs` — assignments that all succeed, and the table afterwards.
* `BlockLang.FailsWith` — assignments of which one fails, and the table at that point.
* `BlockLang.Tree.Yields` — the value of a program, which is that of its last statement.
* `BlockLang.Tree.RunsInOrder` — a run performs the assignments in order.
* `BlockLang.tableAfter` — the table that some steps of a session have left.

## Main results

* `BlockLang.performs_or_failsWith` — all assignments succeed, or there is a first that fails.
* `BlockLang.Tree.IsStatement.run_of_performs`,
  `BlockLang.Tree.IsStatement.run_of_failsWith` — the run of a statement in the two cases.
* `BlockLang.session_append` — sessions, one after the other.
* `BlockLang.programs_run_in_order` — programs, expressions and sessions.
-/

namespace BlockLang

/-- An assignment, apart from the program that it belongs to. -/
structure Assignment where
  target : String
  value : Tree
deriving DecidableEq, Repr

namespace Tree

mutual

/-- The assignments of a program in the order in which they stand in it, those of inner blocks
included. -/
def assignments : Tree → List Assignment
  | assign name value => [⟨name, value⟩]
  | compound children => assignmentsOf children
  | num _ | var _ | unary _ _ | binary _ _ _ | noop => []

/-- The assignments of statements, one after the other. -/
def assignmentsOf : List Tree → List Assignment
  | [] => []
  | child :: children => assignments child ++ assignmentsOf children

end

lemma assignmentsOf_append (cs ds : List Tree) :
    assignmentsOf (cs ++ ds) = assignmentsOf cs ++ assignmentsOf ds := by
  induction cs with
  | nil => rfl
  | cons c cs ih => rw [List.cons_append, assignmentsOf, ih, assignmentsOf, List.append_assoc]

lemma mem_assignmentsOf {children : List Tree} {a : Assignment} :
    a ∈ assignmentsOf children ↔ ∃ child ∈ children, a ∈ child.assignments := by
  induction children with
  | nil => simp [assignmentsOf]
  | cons child children ih => simp [assignmentsOf, ih]

end Tree

/-! ## Assignments performed one after the other -/

/-- All the assignments succeed: each sets its target to the value that its expression has in the
table at that point. -/
inductive Performs : Store → List Assignment → Store → Prop where
  | nil {s : Store} : Performs s [] s
  | cons {s s' : Store} {a : Assignment} {as : List Assignment} {v : Int64}
      (hvalue : (a.value.run s).1 = .ok v) (tail : Performs (s.insert a.target v) as s') :
      Performs s (a :: as) s'

/-- The assignments succeed up to one whose expression fails; the table is the one that they leave
before it. -/
inductive FailsWith (err : EvalError) : Store → List Assignment → Store → Prop where
  | here {s : Store} {a : Assignment} {as : List Assignment}
      (herr : (a.value.run s).1 = .error err) : FailsWith err s (a :: as) s
  | later {s s' : Store} {a : Assignment} {as : List Assignment} {v : Int64}
      (hvalue : (a.value.run s).1 = .ok v)
      (tail : FailsWith err (s.insert a.target v) as s') : FailsWith err s (a :: as) s'

section

variable {s s' u : Store} {as bs : List Assignment} {err : EvalError}

/-- Either all assignments succeed or there is a first one whose expression fails. -/
lemma performs_or_failsWith (s : Store) (as : List Assignment) :
    (∃ s', Performs s as s') ∨ ∃ err s', FailsWith err s as s' := by
  induction as generalizing s with
  | nil => exact Or.inl ⟨s, .nil⟩
  | cons a as ih =>
    rcases hvalue : (a.value.run s).1 with err | v
    · exact Or.inr ⟨err, s, .here hvalue⟩
    · rcases ih (s.insert a.target v) with ⟨s', hs'⟩ | ⟨err, s', hs'⟩
      · exact Or.inl ⟨s', .cons hvalue hs'⟩
      · exact Or.inr ⟨err, s', .later hvalue hs'⟩

lemma performs_append_iff :
    Performs s (as ++ bs) s' ↔ ∃ u, Performs s as u ∧ Performs u bs s' := by
  induction as generalizing s with
  | nil =>
    constructor
    · intro h
      exact ⟨s, .nil, h⟩
    · rintro ⟨u, hu, h⟩
      cases hu
      exact h
  | cons a as ih =>
    constructor
    · rintro (_ | ⟨hvalue, tail⟩)
      obtain ⟨u, hu, hs'⟩ := ih.1 tail
      exact ⟨u, .cons hvalue hu, hs'⟩
    · rintro ⟨u, _ | ⟨hvalue, tail⟩, hs'⟩
      exact .cons hvalue (ih.2 ⟨u, tail, hs'⟩)

/-- The first assignment that fails lies in the first part or in the second. -/
lemma FailsWith.of_append (h : FailsWith err s (as ++ bs) s') :
    FailsWith err s as s' ∨ ∃ u, Performs s as u ∧ FailsWith err u bs s' := by
  induction as generalizing s with
  | nil => exact Or.inr ⟨s, .nil, h⟩
  | cons a as ih =>
    cases h with
    | here herr => exact Or.inl (.here herr)
    | later hvalue tail =>
      rcases ih tail with hfirst | ⟨u, hu, hsecond⟩
      · exact Or.inl (.later hvalue hfirst)
      · exact Or.inr ⟨u, .cons hvalue hu, hsecond⟩

/-- A failure lies at some place of the list, and all before it succeeds. -/
lemma failsWith_iff :
    FailsWith err s as s' ↔ ∃ before a after, as = before ++ a :: after ∧
      Performs s before s' ∧ (a.value.run s').1 = .error err := by
  constructor
  · intro h
    induction h with
    | @here s a as herr => exact ⟨[], a, as, rfl, .nil, herr⟩
    | @later s s' a as v hvalue _ ih =>
      obtain ⟨before, b, after, rfl, hbefore, herr⟩ := ih
      exact ⟨a :: before, b, after, rfl, .cons hvalue hbefore, herr⟩
  · rintro ⟨before, a, after, rfl, hbefore, herr⟩
    induction hbefore with
    | nil => exact .here herr
    | cons hvalue _ ih => exact .later hvalue (ih herr)

end

namespace Tree

/-- The value of a program whose assignments succeed: that of its last statement, and zero for the
empty statement. -/
inductive Yields : Store → Tree → Int64 → Prop where
  | noop {s : Store} : Yields s noop 0
  | assign {s : Store} {name : String} {e : Tree} {v : Int64} (hvalue : (e.run s).1 = .ok v) :
      Yields s (assign name e) v
  | compound {s s' : Store} {init : List Tree} {last : Tree} {v : Int64}
      (hinit : Performs s (assignmentsOf init) s') (hlast : Yields s' last v) :
      Yields s (compound (init ++ [last])) v

/-! ## Runs of statements -/

lemma IsExpression.isArithmetic {e : Tree} (h : e.IsExpression) : e.IsArithmetic := by
  induction h with
  | num => exact .num _
  | var => exact .var _
  | unary _ ih => exact .unary ih
  | binary _ _ ihl ihr => exact .binary ihl ihr

variable {s s' : Store} {err : EvalError}

/-- More statements go on where some have succeeded. -/
lemma runAll_append (last : Int64) (cs ds : List Tree) (s : Store) :
    runAll last (cs ++ ds) s =
      match runAll last cs s with
      | (.ok v, s') => runAll v ds s'
      | (.error err, s') => (.error err, s') := by
  induction cs generalizing last s with
  | nil => rfl
  | cons c cs ih =>
    rw [List.cons_append, runAll_cons, runAll_cons]
    rcases c.run s with ⟨err | v, s'⟩
    · rfl
    · exact ih v s'

lemma run_assign_of_ok {name : String} {e : Tree} {v : Int64} (he : e.IsExpression)
    (hvalue : (e.run s).1 = .ok v) : (assign name e).run s = (.ok v, s.insert name v) := by
  have hrun : e.run s = (.ok v, s) := Prod.ext hvalue (he.isArithmetic.run_snd s)
  rw [run_assign, hrun]

lemma run_assign_of_error {name : String} {e : Tree} (he : e.IsExpression)
    (hvalue : (e.run s).1 = .error err) : (assign name e).run s = (.error err, s) := by
  have hrun : e.run s = (.error err, s) := Prod.ext hvalue (he.isArithmetic.run_snd s)
  rw [run_assign, hrun]

/-- If the assignments of statements succeed, so do the statements. -/
lemma runAll_of_performs {cs : List Tree} (last : Int64)
    (h : ∀ c ∈ cs, ∀ s s', Performs s c.assignments s' →
      ∃ v, Yields s c v ∧ c.run s = (.ok v, s'))
    (hs : Performs s (assignmentsOf cs) s') : ∃ v, runAll last cs s = (.ok v, s') := by
  induction cs generalizing last s with
  | nil =>
    cases hs
    exact ⟨last, rfl⟩
  | cons c cs ih =>
    obtain ⟨u, hu, hs'⟩ := performs_append_iff.1 hs
    obtain ⟨v, -, hrun⟩ := h c List.mem_cons_self s u hu
    simp only [runAll_cons, hrun]
    exact ih v (fun d hd => h d (List.mem_cons_of_mem c hd)) hs'

/-- If the assignments of a statement succeed it has the value of its last part, and the table is
the one that the assignments leave.

**Proof sketch.** Induction on the statement. A block has a last statement: those before it run to
the table that their assignments leave, and the last one is run on that. -/
theorem IsStatement.run_of_performs {t : Tree} (h : t.IsStatement)
    (hs : Performs s t.assignments s') : ∃ v, Yields s t v ∧ t.run s = (.ok v, s') := by
  induction h generalizing s s' with
  | noop =>
    cases hs
    exact ⟨0, .noop, run_noop _⟩
  | assign _ _ _ he =>
    rcases hs with _ | ⟨hvalue, _ | _⟩
    exact ⟨_, .assign hvalue, run_assign_of_ok he hvalue⟩
  | @compound children hne _ ih =>
    obtain ⟨init, last, rfl⟩ : ∃ init last, children = init ++ [last] :=
      ⟨_, _, (List.dropLast_concat_getLast hne).symm⟩
    rw [assignments, assignmentsOf_append] at hs
    obtain ⟨u, hu, hs'⟩ := performs_append_iff.1 hs
    rw [assignmentsOf, assignmentsOf, List.append_nil] at hs'
    obtain ⟨w, hinit⟩ := runAll_of_performs 0
      (fun c hc s s' => ih c (List.mem_append_left _ hc)) hu
    obtain ⟨v, hyields, hlast⟩ := ih last (by simp) hs'
    refine ⟨v, .compound hu hyields, ?_⟩
    simp only [run_compound, runAll_append, hinit, runAll_cons, hlast, runAll_nil]

/-- If an assignment of some statements is the first to fail, the statements stop there. -/
lemma runAll_of_failsWith {cs : List Tree} (last : Int64) (hcs : ∀ c ∈ cs, c.IsStatement)
    (h : ∀ c ∈ cs, ∀ s, FailsWith err s c.assignments s' → c.run s = (.error err, s'))
    (hs : FailsWith err s (assignmentsOf cs) s') : runAll last cs s = (.error err, s') := by
  induction cs generalizing last s with
  | nil => cases hs
  | cons c cs ih =>
    rcases hs.of_append with hfirst | ⟨u, hu, hlater⟩
    · simp only [runAll_cons, h c List.mem_cons_self s hfirst]
    · obtain ⟨v, -, hrun⟩ := (hcs c List.mem_cons_self).run_of_performs hu
      simp only [runAll_cons, hrun]
      exact ih v (fun d hd => hcs d (List.mem_cons_of_mem c hd))
        (fun d hd => h d (List.mem_cons_of_mem c hd)) hlater

/-- If an assignment of a statement is the first to fail the statement fails with it, and the table
is the one that the assignments before it leave. -/
theorem IsStatement.run_of_failsWith {t : Tree} (h : t.IsStatement)
    (hs : FailsWith err s t.assignments s') : t.run s = (.error err, s') := by
  induction h generalizing s with
  | noop => cases hs
  | assign _ _ _ he =>
    rcases hs with herr | ⟨_, _ | _⟩
    exact run_assign_of_error he herr
  | compound _ hchildren ih => exact runAll_of_failsWith 0 hchildren (fun c hc s => ih c hc) hs

/-- A run performs the assignments of a program in order: all of them, or those before the first
whose expression fails. -/
structure RunsInOrder (t : Tree) (s : Store) : Prop where
  /-- If all assignments succeed the run gives the value of the last statement and the table that
  they leave. -/
  succeeds : ∀ s', Performs s t.assignments s' → ∃ v, Yields s t v ∧ t.run s = (.ok v, s')
  /-- Otherwise there is a first assignment whose expression fails, -/
  otherwise : (∃ s', Performs s t.assignments s') ∨
    ∃ before a after s' err, t.assignments = before ++ a :: after ∧ Performs s before s' ∧
      (a.value.run s').1 = .error err
  /-- and the run fails with it and gives the table that the assignments before it leave. -/
  fails : ∀ before a after s' err, t.assignments = before ++ a :: after →
    Performs s before s' → (a.value.run s').1 = .error err → t.run s = (.error err, s')

lemma IsStatement.runsInOrder {t : Tree} (h : t.IsStatement) (s : Store) : t.RunsInOrder s where
  succeeds s' := h.run_of_performs
  otherwise := by
    rcases performs_or_failsWith s t.assignments with hs' | ⟨err, s', hs'⟩
    · exact Or.inl hs'
    · obtain ⟨before, a, after, hsplit, hbefore, herr⟩ := failsWith_iff.1 hs'
      exact Or.inr ⟨before, a, after, s', err, hsplit, hbefore, herr⟩
  fails before a after s' err hsplit hbefore herr :=
    h.run_of_failsWith (failsWith_iff.2 ⟨before, a, after, hsplit, hbefore, herr⟩)

end Tree

/-! ## Sessions -/

/-- The table that the steps of a session have left, which is the one before them if there are
none. -/
def tableAfter (s : Store) (steps : List (Except Failure Int64 × Store)) : Store :=
  (steps.map Prod.snd).getLastD s

lemma tableAfter_cons (s : Store) (step : Except Failure Int64 × Store)
    (steps : List (Except Failure Int64 × Store)) :
    tableAfter s (step :: steps) = tableAfter step.2 steps := by
  rw [tableAfter, tableAfter, List.map_cons, List.getLastD_cons]

/-- Two sessions in a row: the second one starts from the table that the first has left. -/
theorem session_append (s : Store) (before after : List Script) :
    session s (before ++ after) =
      session s before ++ session (tableAfter s (session s before)) after := by
  induction before generalizing s with
  | nil => rfl
  | cons script before ih =>
    rw [List.cons_append, session, ih, session, tableAfter_cons, List.cons_append]

/-- A script that parses is run like its tree. -/
lemma Script.run_of_parse {script : Script} {t : Tree} (h : script.parse = .ok t) (s : Store) :
    script.run s = ((t.run s).1.mapError .evaluation, (t.run s).2) := by
  simp only [Script.run, h]
  rcases t.run s with ⟨_ | _, _⟩ <;> rfl

/-- **Programs run in order.** The tree of a program performs its assignments in the order of the
text, up to the first that fails, and that of an expression leaves the table alone. In a session
each tree is run on the table that the step before it left, whether that step failed or not. -/
theorem programs_run_in_order :
    (∀ text t, parse text = .ok t → ∀ s, t.RunsInOrder s) ∧
    (∀ text e, parseExpr text = .ok e → ∀ s, (e.run s).2 = s) ∧
    ∀ (s : Store) (before : List Script) (script : Script) (after : List Script) (t : Tree),
      script.parse = .ok t →
      session s (before ++ script :: after) =
        let u := tableAfter s (session s before)
        session s before ++
          ((t.run u).1.mapError .evaluation, (t.run u).2) :: session (t.run u).2 after := by
  refine ⟨fun text t h s => ?_, fun text e h s => ?_, fun s before script after t h => ?_⟩
  · exact (isStatement_of_parse h).1.runsInOrder s
  · exact (isExpression_of_parseExpr h).isArithmetic.run_snd s
  · rw [session_append, session, Script.run_of_parse h]

/-- A division by zero within a block leaves the assignment before the block in the table, and the
one after it is not performed. -/
theorem programs_run_in_order_division :
    ∃ t, parse "BEGIN x := 1; BEGIN ; y := x / 0; x := 2 END END." = .ok t ∧
      t.run ∅ = (.error .divisionByZero, (∅ : Store).insert "x" 1) := by
  have hparse : parse "BEGIN x := 1; BEGIN ; y := x / 0; x := 2 END END." =
      .ok (.compound [.assign "x" (.num 1), .compound [.noop,
        .assign "y" (.binary (.var "x") .divide (.num 0)), .assign "x" (.num 2)]]) := by
    decide +kernel
  have hfirst : Performs ∅ [⟨"x", .num 1⟩] ((∅ : Store).insert "x" 1) := .cons rfl .nil
  refine ⟨_, hparse, (programs_run_in_order.1 _ _ hparse ∅).fails _ _ _ _ _ rfl hfirst ?_⟩
  simp [Tree.run_binary, Store.read, BinaryOp.apply]

end BlockLang
