import BlockLang.Evaluation.Run
import BlockLang.Proofs.Grammar.Piece
import BlockLang.Proofs.Tree.Printable
import BlockLang.Tree.Source
import Mathlib.Order.WellFounded

set_option relaxedAutoImplicit false
set_option autoImplicit false

/-!
# The normal form of a tree

The source text of a tree does not tell a negative integer from a negated one, nor a block without a
statement from one with the empty statement. The normal form is the tree that the text stands for.
It has the same meaning, apart from the smallest integer of all, which is no negated one.

## Main definitions

* `BlockLang.Tree.IsExpressionShaped`, `BlockLang.Tree.IsStatementShaped` — trees of expressions and
  statements with any integers and blocks of any length.
* `BlockLang.Tree.normal` — the normal form.
* `BlockLang.Tree.Shows`, `BlockLang.Tree.ShowsFirst` — where the source text shows an integer, and
  where it does so first.

## Main results

* `BlockLang.Tree.Shows.source_eq` — the source text has the integer there.
* `BlockLang.Tree.ShowsFirst.not_shows`, `BlockLang.Tree.ShowsFirst.not_shows_of_mem` — what stands
  before the first place does not show the integer.
* `BlockLang.Tree.run_normal` — the normal form has the same meaning.
-/

namespace BlockLang.Tree

/-- Trees of expressions with any integers: names are words other than the keyword `END`. -/
inductive IsExpressionShaped : Tree → Prop where
  | num (v : Int64) : IsExpressionShaped (num v)
  | var {name : String} (hname : IsName name)
      (hend : Token.foldCase name ≠ Token.foldCase "END") : IsExpressionShaped (var name)
  | unary {op : UnaryOp} {e : Tree} (he : IsExpressionShaped e) : IsExpressionShaped (unary op e)
  | binary {op : BinaryOp} {l r : Tree} (hl : IsExpressionShaped l) (hr : IsExpressionShaped r) :
      IsExpressionShaped (binary l op r)

/-- Trees of statements with any integers and blocks of any length: names to assign to are words
other than the keywords. -/
inductive IsStatementShaped : Tree → Prop where
  | noop : IsStatementShaped noop
  | assign {name : String} {e : Tree} (hname : IsName name)
      (hbegin : Token.foldCase name ≠ Token.foldCase "BEGIN")
      (hend : Token.foldCase name ≠ Token.foldCase "END") (he : IsExpressionShaped e) :
      IsStatementShaped (assign name e)
  | compound {children : List Tree} (h : ∀ child ∈ children, IsStatementShaped child) :
      IsStatementShaped (compound children)

mutual

/-- The normal form of a tree: a negative integer becomes a negated one, and a block without a
statement gets the empty statement. -/
def normal : Tree → Tree
  | num v => if v.toInt < 0 then unary .minus (num (-v)) else num v
  | var name => var name
  | unary op e => unary op (normal e)
  | binary l op r => binary (normal l) op (normal r)
  | assign name e => assign name (normal e)
  | compound [] => compound [noop]
  | compound (child :: children) => compound (normal child :: normals children)
  | noop => noop

/-- The normal forms of trees. -/
def normals : List Tree → List Tree
  | [] => []
  | child :: children => normal child :: normals children

end

lemma normals_eq_map (children : List Tree) : normals children = children.map normal := by
  induction children with
  | nil => rfl
  | cons child children ih => rw [normals, ih, List.map_cons]

lemma normal_compound {children : List Tree} (hne : children ≠ []) :
    (compound children).normal = compound (children.map normal) := by
  obtain ⟨child, children, rfl⟩ := List.exists_cons_of_ne_nil hne
  rw [normal, normals_eq_map, List.map_cons]

/-! ## Where a text shows an integer -/

/-- The source text of a tree shows the integer right after the text `before`. -/
inductive Shows (v : Int64) : Tree → String → Prop where
  | num : Shows v (num v) ""
  | unary {op : UnaryOp} {e : Tree} {before : String} (h : Shows v e before) :
      Shows v (unary op e) ("(" ++ op.symbol ++ before)
  | left {op : BinaryOp} {l r : Tree} {before : String} (h : Shows v l before) :
      Shows v (binary l op r) ("(" ++ before)
  | right {op : BinaryOp} {l r : Tree} {before : String} (h : Shows v r before) :
      Shows v (binary l op r) ("(" ++ source l ++ " " ++ op.symbol ++ " " ++ before)
  | assign {name : String} {e : Tree} {before : String} (h : Shows v e before) :
      Shows v (assign name e) (name ++ " := " ++ before)
  | compound {cs ds : List Tree} {c : Tree} {before : String} (h : Shows v c before) :
      Shows v (compound (cs ++ c :: ds))
        ("BEGIN " ++ String.intercalate "; " (cs.map source ++ [before]))

/-- The source text shows the integer right after the text `before`, and nowhere further left. -/
def ShowsFirst (v : Int64) (t : Tree) (before : String) : Prop :=
  Shows v t before ∧ ∀ other, Shows v t other → before.length ≤ other.length

variable {v : Int64} {t e l r : Tree} {before : String}

/-- A joined list of texts, cut within one of them. -/
lemma intercalate_cut (sep : String) (xs ys : List String) (x y : String) :
    String.intercalate sep (xs ++ (x ++ y) :: ys) =
      String.intercalate sep (xs ++ [x]) ++ String.intercalate sep (y :: ys) := by
  rcases eq_or_ne xs [] with rfl | hne
  · rw [List.nil_append, List.nil_append, String.intercalate_cons_append,
      String.intercalate_singleton]
  · rw [String.intercalate_append_of_ne_nil hne (by simp),
      String.intercalate_append_of_ne_nil hne (by simp), String.intercalate_cons_append,
      String.intercalate_singleton]
    simp only [String.append_assoc]

/-- The last one of some joined texts stands at the end. -/
lemma intercalate_append_singleton (sep : String) (xs : List String) (x : String) :
    String.intercalate sep (xs ++ [x]) = String.intercalate sep (xs ++ [""]) ++ x := by
  have hcut := intercalate_cut sep xs [] "" x
  rwa [String.empty_append, String.intercalate_singleton] at hcut

/-- The source text has the integer where it shows it, and words end after it. -/
theorem Shows.source_eq (h : Shows v t before) :
    ∃ after, EndsWords after.toList ∧ t.source = before ++ (Decimal.ofInt64 v ++ after) := by
  induction h with
  | num => exact ⟨"", by simp, by simp [source]⟩
  | unary _ ih =>
    obtain ⟨after, hafter, heq⟩ := ih
    have hclose : EndsWords ")".toList := endsWords_cons (c := ')') [] (by simp)
    exact ⟨after ++ ")", by simpa using hafter.append hclose,
      by simp only [source, heq, String.append_assoc]⟩
  | @left op l r before _ ih =>
    obtain ⟨after, hafter, heq⟩ := ih
    have hblank : EndsWords (" " ++ op.symbol ++ " " ++ source r ++ ")").toList := by
      simpa using endsWords_cons (c := ' ') _ (by simp)
    exact ⟨after ++ (" " ++ op.symbol ++ " " ++ source r ++ ")"),
      by simpa using hafter.append hblank, by simp only [source, heq, String.append_assoc]⟩
  | right _ ih =>
    obtain ⟨after, hafter, heq⟩ := ih
    have hclose : EndsWords ")".toList := endsWords_cons (c := ')') [] (by simp)
    exact ⟨after ++ ")", by simpa using hafter.append hclose,
      by simp only [source, heq, String.append_assoc]⟩
  | assign _ ih =>
    obtain ⟨after, hafter, heq⟩ := ih
    exact ⟨after, hafter, by simp only [source, heq, String.append_assoc]⟩
  | @compound cs ds c before _ ih =>
    obtain ⟨after, hafter, heq⟩ := ih
    have hrest : EndsWords (String.intercalate "; " ("" :: ds.map source) ++ " END").toList := by
      rcases ds with _ | ⟨d, ds⟩
      · simpa using endsWords_cons (c := ' ') _ (by simp)
      · simpa [String.intercalate_cons_cons] using endsWords_cons (c := ';') _ (by simp)
    refine ⟨after ++ (String.intercalate "; " ("" :: ds.map source) ++ " END"),
      by simpa using hafter.append hrest, ?_⟩
    have hafter_nil : String.intercalate "; " (after :: ds.map source) =
        after ++ String.intercalate "; " ("" :: ds.map source) := by
      rw [← String.intercalate_cons_append, String.append_empty]
    rw [source, sources_eq_map, List.map_append, List.map_cons, heq, intercalate_cut,
      String.intercalate_cons_append, hafter_nil]
    simp only [String.append_assoc]

/-- The text goes on with the integer after the place where it shows it. -/
lemma Shows.length_lt (h : Shows v t before) : before.length < t.source.length := by
  obtain ⟨after, -, heq⟩ := h.source_eq
  have hpos : 0 < (Decimal.ofInt64 v).length := by
    have hdigits := List.length_pos_iff.2 (Decimal.digits_ne_nil v.toInt.natAbs)
    rw [Decimal.ofInt64, Decimal.ofInt]
    split <;> simp <;> omega
  simp only [heq, String.length_append]
  omega

/-! ## Where a text shows an integer first -/

/-- Of the places where a text shows an integer, one is the first. -/
lemma Shows.exists_showsFirst (h : Shows v t before) : ∃ first, ShowsFirst v t first := by
  obtain ⟨first, hfirst, hmin⟩ :=
    (measure String.length).wf.has_min {place | Shows v t place} ⟨before, h⟩
  exact ⟨first, hfirst, fun other hother => Nat.le_of_not_lt (hmin other hother)⟩

variable {around : String}

/-- The part of a tree with the first integer shows it first. -/
lemma ShowsFirst.of_part (hpart : ∀ other, Shows v e other → Shows v t (around ++ other))
    (h : Shows v e before) (hfirst : ShowsFirst v t (around ++ before)) :
    ShowsFirst v e before := by
  refine ⟨h, fun other hother => ?_⟩
  have hle := hfirst.2 _ (hpart other hother)
  simp only [String.length_append] at hle
  omega

/-- A part of a tree that stands before the first integer does not show it. -/
lemma ShowsFirst.not_shows (hpart : ∀ other, Shows v e other → Shows v t (around ++ other))
    (hbefore : (around ++ e.source).length ≤ before.length) (hfirst : ShowsFirst v t before)
    (other : String) : ¬ Shows v e other := by
  intro hother
  have hlt := hother.length_lt
  have hle := hfirst.2 _ (hpart other hother)
  simp only [String.length_append] at hle hbefore
  omega

variable {cs ds : List Tree} {c : Tree}

/-- What a statement shows the block around it shows as well, after the statements before it. -/
lemma Shows.compound_append (h : Shows v c before) :
    Shows v (Tree.compound (cs ++ c :: ds))
      ("BEGIN " ++ String.intercalate "; " (cs.map source ++ [""]) ++ before) := by
  have hshows : Shows v (Tree.compound (cs ++ c :: ds)) _ := h.compound
  rwa [intercalate_append_singleton, ← String.append_assoc] at hshows

lemma ShowsFirst.of_compound (h : Shows v c before)
    (hfirst : ShowsFirst v (Tree.compound (cs ++ c :: ds))
      ("BEGIN " ++ String.intercalate "; " (cs.map source ++ [before]))) :
    ShowsFirst v c before := by
  rw [intercalate_append_singleton, ← String.append_assoc] at hfirst
  exact hfirst.of_part (fun _ hother => hother.compound_append) h

/-- The statements before the one with the first integer do not show it. -/
lemma ShowsFirst.not_shows_of_mem {d : Tree} (hd : d ∈ cs)
    (hfirst : ShowsFirst v (Tree.compound (cs ++ c :: ds))
      ("BEGIN " ++ String.intercalate "; " (cs.map source ++ [before]))) (other : String) :
    ¬ Shows v d other := by
  obtain ⟨cs₁, cs₂, rfl⟩ := List.append_of_mem hd
  rw [List.append_assoc, List.cons_append] at hfirst
  refine hfirst.not_shows (fun _ hother => hother.compound_append) ?_ other
  have hcut := intercalate_cut "; " (cs₁.map source) (cs₂.map source ++ [before]) d.source ""
  rw [String.append_empty, intercalate_append_singleton] at hcut
  simp only [List.map_append, List.map_cons, List.append_assoc, List.cons_append, hcut,
    String.length_append]
  omega

/-! ## The meaning of the normal form -/

/-- The negation of an integer other than the smallest one has the opposite value. -/
lemma toInt_neg {v : Int64} (hv : v ≠ Int64.minValue) : (-v).toInt = -v.toInt := by
  have hmin : v.toInt ≠ -2 ^ 63 := fun heq => hv (Int64.toInt_inj.1 (heq.trans (by decide)))
  have hle : -2 ^ 63 ≤ v.toInt := Int64.minValue_le_toInt v
  have hge : v.toInt ≤ 2 ^ 63 - 1 := Int64.toInt_le v
  rw [Int64.toInt_neg, Int.bmod_eq_of_le]
  · omega
  · omega

/-- A negative integer is the negation of its opposite. -/
lemma apply_minus_neg {v : Int64} (hv : v ≠ Int64.minValue) : UnaryOp.minus.apply (-v) = .ok v := by
  rw [UnaryOp.apply_eq_ok_iff, toInt_neg hv, UnaryOp.exact, Int.neg_neg]

lemma runAll_map_normal {children : List Tree} (h : ∀ c ∈ children, ∀ s, c.normal.run s = c.run s)
    (last : Int64) (s : Store) :
    runAll last (children.map normal) s = runAll last children s := by
  induction children generalizing last s with
  | nil => rfl
  | cons c cs ih =>
    rw [List.map_cons, runAll_cons, runAll_cons, h c List.mem_cons_self]
    rcases c.run s with ⟨err | v, s'⟩
    · rfl
    · exact ih (fun d hd => h d (List.mem_cons_of_mem c hd)) v s'

/-- What a block does not show none of its statements shows. -/
lemma not_shows_of_compound {children : List Tree}
    (h : ∀ before, ¬ Shows v (compound children) before) (hc : c ∈ children) (before : String) :
    ¬ Shows v c before := by
  obtain ⟨cs, ds, rfl⟩ := List.append_of_mem hc
  exact fun hshows => h _ hshows.compound

/-- **The normal form has the same meaning**, if the smallest integer does not occur.

**Proof sketch.** Induction on the tree. An integer that has been replaced is computed by one
negation, which fits, and the empty statement in a block has the value zero of the empty block. -/
theorem run_normal (t : Tree) (h : ∀ before, ¬ Shows Int64.minValue t before) (s : Store) :
    t.normal.run s = t.run s := by
  induction t using inductionOn generalizing s with
  | num v =>
    have hv : v ≠ Int64.minValue := fun heq => h "" (heq ▸ .num)
    rw [normal]
    split
    · rw [run_unary, run_num, run_num]
      simp only [apply_minus_neg hv]
    · rfl
  | var name => rfl
  | unary op e ih =>
    rw [normal, run_unary, run_unary, ih fun before hbefore => h _ hbefore.unary]
  | binary l op r ihl ihr =>
    have hl : ∀ s, l.normal.run s = l.run s := ihl fun before hbefore => h _ hbefore.left
    have hr : ∀ s, r.normal.run s = r.run s := ihr fun before hbefore => h _ hbefore.right
    rw [normal, run_binary, run_binary, hl]
    simp only [hr]
  | assign name e ih =>
    rw [normal, run_assign, run_assign, ih fun before hbefore => h _ hbefore.assign]
  | compound children ih =>
    rcases eq_or_ne children [] with rfl | hne
    · rfl
    · rw [normal_compound hne, run_compound, run_compound, runAll_map_normal]
      exact fun c hc s => ih c hc (not_shows_of_compound h hc) s
  | noop => rfl

end BlockLang.Tree
