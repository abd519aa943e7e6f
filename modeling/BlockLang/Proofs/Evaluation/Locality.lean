import BlockLang.Proofs.Evaluation.Access

set_option relaxedAutoImplicit false
set_option autoImplicit false

/-!
# Evaluation is local

What a tree comes to and what it does to a table depends on the variables that it reads, and on
nothing else in the table. All that it does is to overwrite the table with some values for variables
that it assigns to. These values are the same for all tables that agree on what is read, and so they
are if the evaluation fails halfway.

In the statements `s ∪ u` is the table `s` overwritten with `u`.

## Main definitions

* `BlockLang.Store.AgreeOn` — two tables agree on the variables that are read.
* `BlockLang.IsLocal` — an evaluation acts on tables that agree in the same way.

## Main results

* `BlockLang.followsAccesses_isLocal` — locality is told by the accesses.
* `BlockLang.evaluation_is_local` — the evaluation of every tree is local.
-/

namespace BlockLang

namespace Store

/-! ## Tables overwritten -/

lemma union_empty (s : Store) : s ∪ ∅ = s :=
  Std.ExtTreeMap.ext_getElem? fun name => by simp [Std.ExtTreeMap.getElem?_union]

lemma union_assoc (s u w : Store) : s ∪ u ∪ w = s ∪ (u ∪ w) :=
  Std.ExtTreeMap.ext_getElem? fun name => by simp [Std.ExtTreeMap.getElem?_union, Option.or_assoc]

lemma insert_eq_union (s : Store) (name : String) (v : Int64) :
    s.insert name v = s ∪ (∅ : Store).insert name v := by
  refine Std.ExtTreeMap.ext_getElem? fun other => ?_
  rw [Std.ExtTreeMap.getElem?_union, Std.ExtTreeMap.getElem?_insert,
    Std.ExtTreeMap.getElem?_insert]
  split <;> simp

/-- The tables have the same value, or both have none, for each variable that is read. -/
def AgreeOn (as : List Access) (s s' : Store) : Prop :=
  ∀ name, .read name ∈ as → s[name]? = s'[name]?

variable {as bs : List Access} {s s' : Store}

lemma AgreeOn.left (h : AgreeOn (as ++ bs) s s') : AgreeOn as s s' :=
  fun name hread => h name (List.mem_append_left _ hread)

lemma AgreeOn.right (h : AgreeOn (as ++ bs) s s') : AgreeOn bs s s' :=
  fun name hread => h name (List.mem_append_right _ hread)

/-- Tables that agree do so after they have been overwritten with the same values. -/
lemma AgreeOn.union (h : AgreeOn as s s') (u : Store) : AgreeOn as (s ∪ u) (s' ∪ u) := by
  intro name hread
  rw [Std.ExtTreeMap.getElem?_union, Std.ExtTreeMap.getElem?_union, h name hread]

end Store

/-! ## Local evaluations -/

/-- Whatever the table, the evaluation comes to the same result on all tables that agree with it on
the variables that are read, and it overwrites them with the same values, which belong to variables
that are written. -/
def IsLocal (as : List Access) (m : EvalM Int64) : Prop :=
  ∀ s, ∃ r u, (∀ name ∈ u, .write name ∈ as) ∧
    ∀ s', Store.AgreeOn as s s' → m.run.run s' = (r, s' ∪ u)

/-- An evaluation that leaves the table alone. -/
lemma isLocal_of_run {as : List Access} {m : EvalM Int64}
    (h : ∀ s, ∃ r, ∀ s', Store.AgreeOn as s s' → m.run.run s' = (r, s')) : IsLocal as m := by
  intro s
  obtain ⟨r, hrun⟩ := h s
  refine ⟨r, ∅, fun name hname => absurd hname Std.ExtTreeMap.not_mem_empty, fun s' hs' => ?_⟩
  rw [hrun s' hs', Store.union_empty]

lemma isLocal_write (name : String) (v : Int64) :
    IsLocal [.write name] (do modify fun s => s.insert name v; pure v) := by
  intro s
  refine ⟨.ok v, (∅ : Store).insert name v, fun other hother => ?_, fun s' _ => ?_⟩
  · obtain rfl : name = other := by simpa [Std.ExtTreeMap.mem_insert] using hother
    exact List.mem_singleton_self _
  · rw [← Store.insert_eq_union]
    rfl

/-- An evaluation that goes on with another one. The second one meets tables that agree, as the
first one has overwritten them with the same values. -/
lemma IsLocal.bind {as bs : List Access} {m : EvalM Int64} {f : Int64 → EvalM Int64}
    (hm : IsLocal as m) (hf : ∀ v, IsLocal bs (f v)) : IsLocal (as ++ bs) (m >>= f) := by
  intro s
  obtain ⟨r, u, hu, hrun⟩ := hm s
  cases r with
  | error err =>
    refine ⟨.error err, u, fun name hname => List.mem_append_left _ (hu name hname), ?_⟩
    intro s' hs'
    rw [Tree.run_bind, hrun s' hs'.left]
  | ok v =>
    obtain ⟨r, w, hw, hnext⟩ := hf v (s ∪ u)
    refine ⟨r, u ∪ w, fun name hname => ?_, fun s' hs' => ?_⟩
    · rcases Std.ExtTreeMap.mem_union_iff.1 hname with hname | hname
      · exact List.mem_append_left _ (hu name hname)
      · exact List.mem_append_right _ (hw name hname)
    · simp only [Tree.run_bind, hrun s' hs'.left, hnext _ (hs'.right.union u), Store.union_assoc]

/-- Locality is told by the accesses. -/
theorem followsAccesses_isLocal : FollowsAccesses IsLocal where
  result r _ := isLocal_of_run fun _ => ⟨r, fun s' _ => Tree.run_ofExcept s' r⟩
  read name := by
    refine isLocal_of_run fun s => ⟨s.read name, fun s' hs' => ?_⟩
    have hvalue : s.read name = s'.read name := by
      rw [Store.read, Store.read, hs' name (List.mem_singleton_self _)]
    rw [hvalue]
    exact Tree.run_var s' name
  write := isLocal_write
  bind := IsLocal.bind

/-- **Evaluation is local.** On two tables that agree on the variables that a tree reads, it comes
to the same value or the same failure, and it overwrites both with the same values for variables
that it assigns to. So a variable that it does not assign to keeps its value, and none is ever
removed. -/
theorem evaluation_is_local (t : Tree) (s₁ s₂ : Store)
    (h : ∀ name, .read name ∈ t.accesses → s₁[name]? = s₂[name]?) :
    (t.run s₁).1 = (t.run s₂).1 ∧
    (∃ u : Store, (∀ name ∈ u, .write name ∈ t.accesses) ∧
      (t.run s₁).2 = s₁ ∪ u ∧ (t.run s₂).2 = s₂ ∪ u) ∧
    (∀ name, .write name ∉ t.accesses → (t.run s₁).2[name]? = s₁[name]?) ∧
    ∀ name ∈ s₁, name ∈ (t.run s₁).2 := by
  obtain ⟨r, u, hu, hrun⟩ := followsAccesses_isLocal.eval t s₁
  have hrun₁ : t.run s₁ = (r, s₁ ∪ u) := hrun s₁ fun _ _ => rfl
  have hrun₂ : t.run s₂ = (r, s₂ ∪ u) := hrun s₂ h
  rw [hrun₁, hrun₂]
  refine ⟨rfl, ⟨u, hu, rfl, rfl⟩, fun name hname => ?_, fun name hname => ?_⟩
  · have hnotMem : name ∉ u := fun hmem => hname (hu name hmem)
    rw [Std.ExtTreeMap.getElem?_union, Std.ExtTreeMap.getElem?_eq_none hnotMem, Option.none_or]
  · exact Std.ExtTreeMap.mem_union_iff.2 (Or.inl hname)

/-- An operand assigns to a variable, and the evaluation fails after that. The two tables differ in
variables that are not read, one of which is assigned to. -/
theorem evaluation_is_local_division :
    let t : Tree := .compound [.assign "x" (.binary (.assign "y" (.var "z")) .plus (.num 1)),
      .binary (.num 1) .divide (.num 0), .assign "w" (.num 1)]
    let s₁ : Store := ((∅ : Store).insert "z" 2).insert "q" 7
    let s₂ : Store := ((∅ : Store).insert "z" 2).insert "x" 9
    (∀ name, .read name ∈ t.accesses → s₁[name]? = s₂[name]?) ∧
    (t.run s₂).1 = .error .divisionByZero ∧
    ∃ u : Store, (∀ name ∈ u, .write name ∈ t.accesses) ∧ (t.run s₁).2 = s₁ ∪ u ∧
      (t.run s₂).2 = s₂ ∪ u := by
  intro t s₁ s₂
  have hreads : ∀ name, .read name ∈ t.accesses → s₁[name]? = s₂[name]? := by
    intro name hname
    obtain rfl : name = "z" := by simpa [t, Tree.accesses, Tree.accessesOf] using hname
    decide +kernel
  obtain ⟨hresult, hupdate, -⟩ := evaluation_is_local t s₁ s₂ hreads
  have hfails : (t.run s₁).1 = .error .divisionByZero := by decide +kernel
  exact ⟨hreads, hresult ▸ hfails, hupdate⟩

end BlockLang
