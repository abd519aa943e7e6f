import BlockLang.Proofs.Evaluation.Access
import BlockLang.Proofs.Evaluation.Assignments

set_option relaxedAutoImplicit false
set_option autoImplicit false

/-!
# Reads before writes

A variable has a value when it is read if it has one in the table at the start or has been written
before. Whether this is so for all reads can be seen from the accesses of a tree. It is what
evaluation finds out: a variable that is missing is that of the first read for which it is not so,
and an evaluation that succeeds has met no such read. An operation that fails stops the evaluation
earlier, but it never brings up a variable.

## Main definitions

* `BlockLang.Covered` — the variable has a value when it is read.
* `BlockLang.AllCovered`, `BlockLang.FirstUncovered` — all reads are covered, or there is a first
  one that is not.
* `BlockLang.MeetsReads` — an evaluation finds out about the reads.
* `BlockLang.Tree.reads` — the variables that a tree reads.

## Main results

* `BlockLang.followsAccesses_meetsReads` — what is found out is told by the accesses.
* `BlockLang.Program.Derives.reads_sublist` — reads are met in the order of the text.
* `BlockLang.undefined_is_first_uncovered` — what evaluation says of the reads of a tree.
-/

namespace BlockLang

/-! ## Covered reads -/

/-- A variable has a value when it is read after some accesses: it is in the table at the start, or
it has been written. -/
def Covered (s : Store) (before : List Access) (name : String) : Prop :=
  name ∈ s ∨ .write name ∈ before

/-- All reads are covered by the accesses before them. -/
def AllCovered (s : Store) (as : List Access) : Prop :=
  ∀ before name after, as = before ++ .read name :: after → Covered s before name

/-- There is a read that is not covered, and all reads before it are. -/
def FirstUncovered (s : Store) (as : List Access) (name : String) : Prop :=
  ∃ before after, as = before ++ .read name :: after ∧ AllCovered s before ∧
    ¬ Covered s before name

/-- The names of the one table and the names that are written make up those of the other. -/
def Adds (as : List Access) (s s' : Store) : Prop :=
  ∀ name, name ∈ s' ↔ name ∈ s ∨ .write name ∈ as

section

variable {s s' : Store} {as bs before : List Access} {name : String}

lemma allCovered_nil (s : Store) : AllCovered s [] := by
  intro before name after hsplit
  simp at hsplit

lemma allCovered_singleton {a : Access} (h : ∀ name, a = .read name → name ∈ s) :
    AllCovered s [a] := by
  intro before name after hsplit
  rcases List.append_eq_singleton_iff.1 hsplit.symm with ⟨rfl, hread⟩ | ⟨-, hnil⟩
  · exact Or.inl (h name (List.cons.inj hread).1.symm)
  · cases hnil

lemma FirstUncovered.not_allCovered (h : FirstUncovered s as name) : ¬ AllCovered s as := by
  obtain ⟨before, after, hsplit, -, huncovered⟩ := h
  exact fun hall => huncovered (hall before name after hsplit)

/-- Reads are covered in view of the accesses before them or of the table after those. -/
lemma covered_append (hadds : Adds as s s') :
    Covered s (as ++ before) name ↔ Covered s' before name := by
  rw [Covered, Covered, hadds name, List.mem_append, or_assoc]

lemma AllCovered.append (has : AllCovered s as) (hadds : Adds as s s') (hbs : AllCovered s' bs) :
    AllCovered s (as ++ bs) := by
  intro before name after hsplit
  rcases List.append_eq_append_iff.1 hsplit with ⟨cs, rfl, hright⟩ | ⟨cs, hleft, hright⟩
  · exact (covered_append hadds).2 (hbs cs name after hright)
  · cases cs with
    | nil =>
      obtain rfl : as = before := by simpa using hleft
      have hcovered := (covered_append hadds).2 (hbs [] name after (by simpa using hright.symm))
      rwa [List.append_nil] at hcovered
    | cons c cs =>
      obtain ⟨rfl, -⟩ := List.cons.inj hright
      exact has before name cs hleft

lemma FirstUncovered.append_right (h : FirstUncovered s as name) (bs : List Access) :
    FirstUncovered s (as ++ bs) name := by
  obtain ⟨before, after, rfl, hbefore, huncovered⟩ := h
  exact ⟨before, after ++ bs, by simp, hbefore, huncovered⟩

lemma FirstUncovered.append_left (has : AllCovered s as) (hadds : Adds as s s')
    (h : FirstUncovered s' bs name) : FirstUncovered s (as ++ bs) name := by
  obtain ⟨before, after, rfl, hbefore, huncovered⟩ := h
  refine ⟨as ++ before, after, by simp, has.append hadds hbefore, ?_⟩
  rwa [covered_append hadds]

lemma adds_insert (s : Store) (name : String) (v : Int64) :
    Adds [.write name] s (s.insert name v) := by
  intro other
  rw [Std.ExtTreeMap.mem_insert, Std.LawfulEqCmp.compare_eq_iff_eq, List.mem_singleton,
    Access.write.injEq, or_comm, eq_comm]

lemma Adds.append {u : Store} (has : Adds as s s') (hbs : Adds bs s' u) : Adds (as ++ bs) s u := by
  intro name
  rw [hbs name, has name, List.mem_append, or_assoc]

end

/-! ## What an evaluation finds out -/

/-- What the outcome of an evaluation says of its reads. -/
inductive TellsReads (s : Store) (as : List Access) : Except EvalError Int64 × Store → Prop where
  /-- A value says that all reads were covered and that all writes have been made. -/
  | ok {v : Int64} {s' : Store} (hcovered : AllCovered s as) (hadds : Adds as s s') :
      TellsReads s as (.ok v, s')
  /-- A missing variable is that of the first read that is not covered. -/
  | undefined {name : String} {s' : Store} (h : FirstUncovered s as name) :
      TellsReads s as (.error (.undefinedVariable name), s')
  /-- Other failures say nothing. -/
  | other {err : EvalError} {s' : Store} (h : ∀ name, err ≠ .undefinedVariable name) :
      TellsReads s as (.error err, s')

namespace TellsReads

variable {s : Store} {as : List Access} {outcome : Except EvalError Int64 × Store}

lemma of_ok (h : TellsReads s as outcome) {v : Int64} (hv : outcome.1 = .ok v) :
    AllCovered s as ∧ Adds as s outcome.2 := by
  cases h with
  | ok hcovered hadds => exact ⟨hcovered, hadds⟩
  | undefined | other => cases hv

lemma of_undefined (h : TellsReads s as outcome) {name : String}
    (hname : outcome.1 = .error (.undefinedVariable name)) : FirstUncovered s as name := by
  cases h with
  | ok => cases hname
  | undefined h =>
    cases hname
    exact h
  | other h =>
    cases hname
    exact absurd rfl (h name)

end TellsReads

/-- On every table the outcome says of the reads what it should. -/
def MeetsReads (as : List Access) (m : EvalM Int64) : Prop :=
  ∀ s, TellsReads s as (m.run.run s)

lemma meetsReads_result {r : Except EvalError Int64}
    (hr : ∀ name, r ≠ .error (.undefinedVariable name)) :
    MeetsReads [] (MonadExcept.ofExcept r) := by
  intro s
  rw [Tree.run_ofExcept]
  cases r with
  | ok v => exact .ok (allCovered_nil s) (by simp [Adds])
  | error err =>
    refine .other fun name hname => hr name ?_
    rw [hname]

lemma meetsReads_read (name : String) :
    MeetsReads [.read name] (do MonadExcept.ofExcept ((← get).read name)) := by
  intro s
  have hrun : (do MonadExcept.ofExcept ((← get).read name) : EvalM Int64).run.run s =
      (s.read name, s) := Tree.run_var s name
  rw [hrun, Store.read]
  split
  · next v hvalue =>
    have hmem : name ∈ s := Std.ExtTreeMap.mem_iff_isSome_getElem?.2 (by rw [hvalue]; rfl)
    exact .ok (allCovered_singleton fun other hother => Access.read.inj hother ▸ hmem)
      (by simp [Adds])
  · next hnone =>
    have hnotMem : name ∉ s := by
      rw [Std.ExtTreeMap.mem_iff_isSome_getElem?, hnone]
      exact Bool.false_ne_true
    exact .undefined ⟨[], [], rfl, allCovered_nil s, by simp [Covered, hnotMem]⟩

lemma meetsReads_write (name : String) (v : Int64) :
    MeetsReads [.write name] (do modify fun s => s.insert name v; pure v) :=
  fun s => .ok (allCovered_singleton (by simp)) (adds_insert s name v)

/-- An evaluation that goes on with another one. If the first one succeeds the second one meets a
table with all that has been written. -/
lemma MeetsReads.bind {as bs : List Access} {m : EvalM Int64} {f : Int64 → EvalM Int64}
    (hm : MeetsReads as m) (hf : ∀ v, MeetsReads bs (f v)) : MeetsReads (as ++ bs) (m >>= f) := by
  intro s
  have htells := hm s
  rw [Tree.run_bind]
  generalize m.run.run s = outcome at htells
  cases htells with
  | undefined h => exact .undefined (h.append_right bs)
  | other h => exact .other h
  | @ok v s' hcovered hadds =>
    have hnext := hf v s'
    dsimp only
    generalize (f v).run.run s' = outcome at hnext
    cases hnext with
    | undefined h => exact .undefined (h.append_left hcovered hadds)
    | other h => exact .other h
    | ok hcovered' hadds' => exact .ok (hcovered.append hadds hcovered') (hadds.append hadds')

/-- What an evaluation finds out about the reads is told by the accesses. -/
theorem followsAccesses_meetsReads : FollowsAccesses MeetsReads where
  result _ := meetsReads_result
  read := meetsReads_read
  write := meetsReads_write
  bind := MeetsReads.bind

/-! ## The order of the text -/

namespace Tree

/-- The variables that a tree reads, in the order of evaluation. -/
def reads (t : Tree) : List String :=
  t.accesses.filterMap fun
    | .read name => some name
    | .write _ => none

lemma reads_binary (l : Tree) (op : BinaryOp) (r : Tree) :
    (binary l op r).reads = l.reads ++ r.reads := by
  rw [reads, accesses, List.filterMap_append, reads, reads]

lemma reads_assign (name : String) (e : Tree) : (assign name e).reads = e.reads := by
  rw [reads, accesses, List.filterMap_append, reads]
  exact List.append_nil _

lemma reads_compound_singleton (c : Tree) : (compound [c]).reads = c.reads := by
  rw [reads, accesses, accessesOf, accessesOf, List.append_nil, reads]

lemma reads_compound_append (cs ds : List Tree) :
    (compound (cs ++ ds)).reads = (compound cs).reads ++ (compound ds).reads := by
  rw [reads, accesses, accessesOf_append, List.filterMap_append]
  rfl

end Tree

/-- The variables of an expression of a text are read in the order of the text. -/
theorem Expression.Derives.reads_sublist {p : Part} {ts : List Token} {e : Tree}
    (h : Derives p ts e) : e.reads.Sublist (ts.map Token.text) := by
  induction h with
  | sign _ _ ih => exact ih.cons _
  | integer => exact List.nil_sublist _
  | bracket _ _ _ ih =>
    rw [List.map_cons, List.map_append]
    exact (ih.trans (List.sublist_append_left _ _)).cons _
  | name => exact List.Sublist.refl _
  | factor _ ih | term _ ih => exact ih
  | product _ _ _ _ ihl ihr | sum _ _ _ _ ihl ihr =>
    rw [Tree.reads_binary, List.map_append, List.map_cons]
    exact ihl.append (ihr.cons _)

/-- The variables of a program are read in the order of its text. -/
theorem Program.Derives.reads_sublist {p : Part} {ts : List Token} {t : Tree}
    (h : Derives p ts t) : t.reads.Sublist (ts.map Token.text) := by
  induction h with
  | empty => exact List.nil_sublist _
  | assignment _ _ _ _ he =>
    rw [Tree.reads_assign, List.map_cons, List.map_cons]
    exact (he.reads_sublist.cons _).cons _
  | nested _ ih => exact ih
  | first _ ih => rwa [Tree.reads_compound_singleton]
  | next _ _ _ ihcs ih =>
    rw [Tree.reads_compound_append, Tree.reads_compound_singleton, List.map_append, List.map_cons]
    exact ihcs.append (ih.cons _)
  | block _ _ _ ih =>
    rw [List.map_cons, List.map_append]
    exact (ih.trans (List.sublist_append_left _ _)).cons _
  | program _ _ ih =>
    rw [List.map_append]
    exact ih.trans (List.sublist_append_left _ _)

/-! ## The reads of a tree -/

/-- A program that fails in its evaluation is parsed, and it is the evaluation of its tree that
fails. -/
lemma exists_run_of_execute {text : String} {err : EvalError}
    (h : execute text = .error (.evaluation err)) :
    ∃ t, parse text = .ok t ∧ (t.run ∅).1 = .error err := by
  rcases hparse : parse text with parseErr | t
  · simp [execute, Script.run, Script.parse, hparse] at h
  · refine ⟨t, rfl, ?_⟩
    rcases hrun : t.run ∅ with ⟨runErr | v, s⟩
    · simpa [execute, Script.run, Script.parse, hparse, hrun] using h
    · simp [execute, Script.run, Script.parse, hparse, hrun] at h

/-- **Undefined variables are reads before writes.** If all reads of a tree are covered, its
evaluation never lacks a variable. If it succeeds all reads are covered, and the table has gained
the variables that are written. If it lacks a variable, that is the one of the first read that is
not covered; and in a program the reads come in the order of the text. -/
theorem undefined_is_first_uncovered :
    (∀ (t : Tree) (s : Store), AllCovered s t.accesses →
      ∀ name, (t.run s).1 ≠ .error (.undefinedVariable name)) ∧
    (∀ (t : Tree) (s : Store) (v : Int64), (t.run s).1 = .ok v →
      AllCovered s t.accesses ∧
      ∀ name, name ∈ (t.run s).2 ↔ name ∈ s ∨ .write name ∈ t.accesses) ∧
    (∀ (t : Tree) (s : Store) (name : String), (t.run s).1 = .error (.undefinedVariable name) →
      FirstUncovered s t.accesses name) ∧
    ∀ (text name : String), execute text = .error (.evaluation (.undefinedVariable name)) →
      ∃ t toks, parse text = .ok t ∧ (Cursor.ofText text).Lexes toks ∧
        t.reads.Sublist (toks.map Token.text) ∧ FirstUncovered ∅ t.accesses name := by
  have htells (t : Tree) (s : Store) : TellsReads s t.accesses (t.run s) :=
    followsAccesses_meetsReads.eval t s
  refine ⟨fun t s hall name h => ?_, fun t s v h => (htells t s).of_ok h,
    fun t s name h => (htells t s).of_undefined h, fun text name h => ?_⟩
  · exact ((htells t s).of_undefined h).not_allCovered hall
  · obtain ⟨t, hparse, hrun⟩ := exists_run_of_execute h
    obtain ⟨toks, htoks, hderives⟩ := parse_eq_ok_iff.1 hparse
    exact ⟨t, toks, hparse, Cursor.lexes_iff_wording.2 htoks, hderives.reads_sublist,
      (htells t ∅).of_undefined hrun⟩

/-- A variable is assigned to in an operand and read in the next one; a variable is missing
although the one that is read after it is there; and a program reads a variable to give it its first
value. -/
theorem undefined_is_first_uncovered_own_value :
    let t : Tree := .binary (.assign "x" (.num 1)) .plus (.var "x")
    let u : Tree := .binary (.assign "x" (.var "y")) .plus (.var "z")
    let s : Store := (∅ : Store).insert "z" 1
    (AllCovered ∅ t.accesses ∧ ∀ name, (t.run ∅).1 ≠ .error (.undefinedVariable name)) ∧
    ((t.run ∅).1 = .ok 2 ∧
      ∀ name, name ∈ (t.run ∅).2 ↔ name ∈ (∅ : Store) ∨ .write name ∈ t.accesses) ∧
    ((u.run s).1 = .error (.undefinedVariable "y") ∧ FirstUncovered s u.accesses "y") ∧
    execute "BEGIN x := x + 1 END." = .error (.evaluation (.undefinedVariable "x")) ∧
    ∃ p, parse "BEGIN x := x + 1 END." = .ok p ∧ FirstUncovered ∅ p.accesses "x" := by
  intro t u s
  have hcovered : AllCovered ∅ ([.write "x"] ++ [.read "x"]) :=
    (allCovered_singleton (by simp)).append (adds_insert ∅ "x" 1) (allCovered_singleton (by simp))
  have hvalue : (t.run ∅).1 = .ok 2 := by decide +kernel
  have hmissing : (u.run s).1 = .error (.undefinedVariable "y") := by decide +kernel
  have hprogram : execute "BEGIN x := x + 1 END." =
      .error (.evaluation (.undefinedVariable "x")) := by decide +kernel
  obtain ⟨hnever, hall, hfirst, htext⟩ := undefined_is_first_uncovered
  obtain ⟨p, -, hparse, -, -, hread⟩ := htext _ _ hprogram
  exact ⟨⟨hcovered, hnever t ∅ hcovered⟩, ⟨hvalue, (hall t ∅ 2 hvalue).2⟩,
    ⟨hmissing, hfirst u s "y" hmissing⟩, hprogram, p, hparse, hread⟩

end BlockLang
