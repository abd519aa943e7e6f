import BlockLang.Proofs.Evaluation.Access
import BlockLang.Proofs.Tree.PostfixCode
import BlockLang.Tree.Lisp

set_option relaxedAutoImplicit false
set_option autoImplicit false

/-!
# What a bracketed list tells about its tree

The bracketed list of a tree is made of words, spaces and brackets, and the brackets tell where each
part of it begins and ends. What the parts stand for is told by the heads of the lists and by how
many items they have: a sign has one operand where an operation with the same symbol has two, a
block without statements has an empty word where a block with an empty statement has an empty list,
and an integer is no name. So every tree can be read back, in whatever way it was built, as long as
its names are names.

## Main definitions

* `BlockLang.Bracketed` — a word, or a list in brackets.
* `BlockLang.Bracketed.chars` — how it is written.
* `BlockLang.Bracketed.tree` — the tree that it stands for.
* `BlockLang.Tree.bracketed` — the list of a tree, before it is written.

## Main results

* `BlockLang.Bracketed.IsPlain.isTold` — a text in brackets determines its parts.
* `BlockLang.Tree.tree_bracketed` — the list of a tree stands for the tree.
* `BlockLang.lisp_unambiguous` — different trees have different lists.
-/

namespace BlockLang

/-! ## Words and lists -/

/-- A word, or a list in brackets: a head, and items after it. -/
inductive Bracketed where
  | word (text : String)
  | list (head : String) (items : List Bracketed)

/-- The characters that can stand in a word or in a head: neither a space nor a bracket does. -/
def isPlainChar (c : Char) : Bool :=
  c != ' ' && c != '(' && c != ')'

lemma isPlainChar_of_isPostfixChar {c : Char} (h : isPostfixChar c = true) :
    isPlainChar c = true := by
  by_contra hplain
  have hmark : c = ' ' ∨ c = '(' ∨ c = ')' := by
    simpa [isPlainChar, ← or_iff_not_imp_left, or_assoc] using hplain
  rcases hmark with rfl | rfl | rfl <;>
    simp [isPostfixChar, isWordChar_eq_isAlphanum_or] at h

namespace Bracketed

mutual

/-- A word as it is, or the head of a list in brackets with a space before each item. -/
def chars : Bracketed → List Char
  | word text => text.toList
  | list head items => '(' :: (head.toList ++ restOfList items)

/-- What is written after the head of a list or after one of its items. -/
def restOfList : List Bracketed → List Char
  | [] => [')']
  | item :: items => ' ' :: (chars item ++ restOfList items)

end

/-- Neither spaces nor brackets stand in the words and heads. -/
inductive IsPlain : Bracketed → Prop where
  | word {text : String} (h : ∀ c ∈ text.toList, isPlainChar c = true) : IsPlain (word text)
  | list {head : String} {items : List Bracketed} (hhead : ∀ c ∈ head.toList, isPlainChar c = true)
      (hitems : ∀ item ∈ items, IsPlain item) : IsPlain (list head items)

/-- An item ends before the text: a space or a closing bracket comes next, or nothing. -/
def EndsItems (rest : List Char) : Prop :=
  ∀ c ∈ rest.head?, c = ' ' ∨ c = ')'

lemma endsItems_restOfList (items : List Bracketed) (r : List Char) :
    EndsItems (restOfList items ++ r) := by
  cases items <;> simp [EndsItems, restOfList]

/-- A word and a head end where the items end. -/
lemma EndsItems.isPlainChar_eq_false {r : List Char} (h : EndsItems r) :
    ∀ c ∈ r.head?, isPlainChar c = false := by
  intro c hc
  rcases h c hc with rfl | rfl <;> rfl

/-- No list is written like a word. -/
lemma EndsItems.word_append_ne {text : String} {r : List Char} (hr : EndsItems r)
    (htext : ∀ c ∈ text.toList, isPlainChar c = true) (cs : List Char) :
    text.toList ++ r ≠ '(' :: cs := by
  intro h
  cases hword : text.toList with
  | nil =>
    rw [hword, List.nil_append] at h
    simpa [h] using hr '('
  | cons c cs' =>
    rw [hword, List.cons_append] at h
    obtain rfl := (List.cons.inj h).1
    simpa [isPlainChar] using htext '(' (by simp [hword])

/-- How it is written tells it from all words and lists, and where it ends. -/
def IsTold (a : Bracketed) : Prop :=
  ∀ (b : Bracketed) (r r' : List Char), b.IsPlain → EndsItems r → EndsItems r' →
    a.chars ++ r = b.chars ++ r' → a = b ∧ r = r'

lemma restOfList_inj {items items' : List Bracketed} {r r' : List Char}
    (hitems : ∀ item ∈ items, item.IsTold) (hitems' : ∀ item ∈ items', item.IsPlain)
    (h : restOfList items ++ r = restOfList items' ++ r') : items = items' ∧ r = r' := by
  induction items generalizing items' with
  | nil =>
    cases items' with
    | nil => exact ⟨rfl, List.append_cancel_left h⟩
    | cons item' items' => simp [restOfList] at h
  | cons item items ih =>
    cases items' with
    | nil => simp [restOfList] at h
    | cons item' items' =>
      rw [List.forall_mem_cons] at hitems hitems'
      simp only [restOfList, List.cons_append, List.append_assoc, List.cons.injEq, true_and] at h
      obtain ⟨rfl, hrest⟩ := hitems.1 item' _ _ hitems'.1 (endsItems_restOfList items r)
        (endsItems_restOfList items' r') h
      obtain ⟨rfl, rfl⟩ := ih hitems.2 hitems'.2 hrest
      exact ⟨rfl, rfl⟩

/-- Words and lists are told by how they are written.

**Proof sketch.** Induction on the list. The first character tells whether it is a word or a list.
A word and a head go on as far as plain characters do; then the items follow, each up to the space
or the bracket after it. -/
theorem IsPlain.isTold {a : Bracketed} (ha : a.IsPlain) : a.IsTold := by
  induction ha with
  | @word text htext =>
    intro b r r' hb hr hr' h
    cases hb with
    | @word text' htext' =>
      obtain ⟨hword, hrest⟩ := Lexeme.append_inj_of_head? htext htext' hr.isPlainChar_eq_false
        hr'.isPlainChar_eq_false h
      obtain rfl := String.toList_inj.1 hword
      exact ⟨rfl, hrest⟩
    | list hhead' hitems' => exact absurd h (hr.word_append_ne htext _)
  | @list head items hhead hitems ih =>
    intro b r r' hb hr hr' h
    cases hb with
    | word htext' => exact absurd h.symm (hr'.word_append_ne htext' _)
    | @list head' items' hhead' hitems' =>
      simp only [chars, List.cons_append, List.append_assoc, List.cons.injEq, true_and] at h
      obtain ⟨hword, hrest⟩ := Lexeme.append_inj_of_head? hhead hhead'
        (endsItems_restOfList items r).isPlainChar_eq_false
        (endsItems_restOfList items' r').isPlainChar_eq_false h
      obtain rfl := String.toList_inj.1 hword
      obtain ⟨rfl, rfl⟩ := restOfList_inj ih hitems' hrest
      exact ⟨rfl, rfl⟩

/-! ## Reading a list back -/

/-- The tree of a list with the head and with items that stand for the trees. A block without
statements has an empty word as its item. -/
def listTree? (head : String) (items : List Tree) : Option Tree :=
  if head = "begin" then some (.compound (if items = [.var ""] then [] else items))
  else
    match items with
    | [] => if head = "" then some .noop else none
    | [e] => (UnaryOp.ofSymbol? head).map (.unary · e)
    | [l, r] =>
      match head, l with
      | ":=", .var name => some (.assign name r)
      | _, _ => (BinaryOp.ofSymbol? head).map (.binary l · r)
    | _ => none

mutual

/-- The tree that a word or a list stands for, if there is one: a word that is no integer stands for
a variable. -/
def tree? : Bracketed → Option Tree
  | word text =>
    match Decimal.number? text.toList with
    | some v => some (.num v)
    | none => some (.var text)
  | list head items => (trees? items).bind (listTree? head)

/-- The trees that items stand for. -/
def trees? : List Bracketed → Option (List Tree)
  | [] => some []
  | item :: items => do return (← tree? item) :: (← trees? items)

end

variable {head : String} {item : Bracketed} {items : List Bracketed} {t : Tree} {ts : List Tree}

/-- A name stands for a variable. -/
lemma tree?_word {name : String} (h : IsName name) : tree? (word name) = some (.var name) := by
  rw [tree?, Instruction.number?_eq_none_of_isName h]

lemma listTree?_begin (h : ts ≠ [.var ""]) : listTree? "begin" ts = some (.compound ts) := by
  rw [listTree?.eq_def, if_pos rfl, if_neg h]

lemma tree?_list (h : trees? items = some ts) : tree? (list head items) = listTree? head ts := by
  rw [tree?, h, Option.bind_some]

lemma trees?_cons (ht : tree? item = some t) (hts : trees? items = some ts) :
    trees? (item :: items) = some (t :: ts) := by
  rw [trees?, ht, hts]
  rfl

end Bracketed

/-! ## The list of a tree -/

namespace Tree

mutual

/-- The list of a tree, before it is written. -/
def bracketed : Tree → Bracketed
  | num v => .word (Decimal.ofInt64 v)
  | var name => .word name
  | unary op e => .list op.symbol [bracketed e]
  | binary l op r => .list op.symbol [bracketed l, bracketed r]
  | assign name e => .list ":=" [.word name, bracketed e]
  | compound [] => .list "begin" [.word ""]
  | compound (c :: cs) => .list "begin" (bracketed c :: bracketeds cs)
  | noop => .list "" []

/-- The lists of trees, before they are written. -/
def bracketeds : List Tree → List Bracketed
  | [] => []
  | c :: cs => bracketed c :: bracketeds cs

end

/-- The variables of the tree, those that it assigns to included, are called by names. -/
def IsNamed (t : Tree) : Prop :=
  ∀ x ∈ t.accesses, IsName x.name

variable {name : String} {op : BinaryOp} {l r e t : Tree} {cs : List Tree}

@[simp] lemma isNamed_var_iff : (var name).IsNamed ↔ IsName name := by
  simp [IsNamed, accesses, Access.name]

@[simp] lemma isNamed_binary_iff : (binary l op r).IsNamed ↔ l.IsNamed ∧ r.IsNamed := by
  simp only [IsNamed, accesses, List.forall_mem_append]

@[simp] lemma isNamed_assign_iff : (assign name e).IsNamed ↔ IsName name ∧ e.IsNamed := by
  rw [IsNamed, accesses, List.forall_mem_append, List.forall_mem_singleton, and_comm]
  rfl

@[simp] lemma isNamed_compound_iff : (compound cs).IsNamed ↔ ∀ c ∈ cs, c.IsNamed := by
  simp only [IsNamed, accesses, mem_accessesOf]
  exact ⟨fun h c hc x hx => h x ⟨c, hc, hx⟩, fun h x ⟨c, hc, hx⟩ => h c hc x hx⟩

/-- The statements of a block, with what is written after them. -/
lemma lisp_intercalate (c : Tree) (hcs : ∀ d ∈ c :: cs, d.lisp.toList = d.bracketed.chars) :
    (String.intercalate " " ((c :: cs).map lisp)).toList ++ [')'] =
      c.bracketed.chars ++ Bracketed.restOfList (bracketeds cs) := by
  induction cs generalizing c with
  | nil =>
    rw [List.forall_mem_singleton] at hcs
    rw [List.map_singleton, String.intercalate_singleton, hcs, bracketeds, Bracketed.restOfList]
  | cons d ds ih =>
    rw [List.forall_mem_cons] at hcs
    have hd := ih d hcs.2
    rw [List.map_cons] at hd ⊢
    rw [List.map_cons, String.intercalate_cons_cons, bracketeds, Bracketed.restOfList, ← hd,
      ← hcs.1]
    simp

/-- The bracketed list of a tree is its list as it is written. -/
theorem toList_lisp (t : Tree) : t.lisp.toList = t.bracketed.chars := by
  induction t using inductionOn with
  | num v | var name | noop => simp [lisp, bracketed, Bracketed.chars, Bracketed.restOfList]
  | unary op e ih => simp [lisp, bracketed, Bracketed.chars, Bracketed.restOfList, ih]
  | binary l op r ihl ihr => simp [lisp, bracketed, Bracketed.chars, Bracketed.restOfList, ihl, ihr]
  | assign name e ih => simp [lisp, bracketed, Bracketed.chars, Bracketed.restOfList, ih]
  | compound cs ih =>
    cases cs with
    | nil => rfl
    | cons c cs =>
      rw [bracketed, Bracketed.chars, Bracketed.restOfList, ← lisp_intercalate c ih]
      simp [lisp, lisps_eq_map]

lemma isPlain_bracketeds (h : ∀ c ∈ cs, c.bracketed.IsPlain) :
    ∀ item ∈ bracketeds cs, item.IsPlain := by
  induction cs with
  | nil => simp [bracketeds]
  | cons c cs ih =>
    rw [List.forall_mem_cons] at h
    exact List.forall_mem_cons.2 ⟨h.1, ih h.2⟩

/-- Neither spaces nor brackets stand in the names and in the words of the list. -/
lemma IsNamed.isPlain (h : t.IsNamed) : t.bracketed.IsPlain := by
  have hunary (op : UnaryOp) : ∀ c ∈ op.symbol.toList, isPlainChar c = true := by
    cases op <;> simp [UnaryOp.symbol, isPlainChar]
  have hbinary (op : BinaryOp) : ∀ c ∈ op.symbol.toList, isPlainChar c = true := by
    cases op <;> simp [BinaryOp.symbol, isPlainChar]
  have hword {name : String} (hname : IsName name) : (Bracketed.word name).IsPlain :=
    .word fun c hc => isPlainChar_of_isPostfixChar (hname.isPostfixChar c hc)
  induction t using inductionOn with
  | num v =>
    exact .word fun c hc => isPlainChar_of_isPostfixChar (isPostfixChar_of_mem_ofInt64 v c hc)
  | var name => exact hword (isNamed_var_iff.1 h)
  | unary op e ih => exact .list (hunary op) (by simpa using ih h)
  | binary l op r ihl ihr =>
    rw [isNamed_binary_iff] at h
    exact .list (hbinary op) (by simpa using ⟨ihl h.1, ihr h.2⟩)
  | assign name e ih =>
    rw [isNamed_assign_iff] at h
    exact .list (by simp [isPlainChar]) (by simpa using ⟨hword h.1, ih h.2⟩)
  | compound cs ih =>
    rw [isNamed_compound_iff] at h
    cases cs with
    | nil => exact .list (by simp [isPlainChar]) (by simpa using Bracketed.IsPlain.word (by simp))
    | cons c cs =>
      exact .list (by simp [isPlainChar]) (isPlain_bracketeds fun d hd => ih d hd (h d hd))
  | noop => exact .list (by simp) (by simp)

lemma trees?_bracketeds (h : ∀ c ∈ cs, c.bracketed.tree? = some c) :
    Bracketed.trees? (bracketeds cs) = some cs := by
  induction cs with
  | nil => rfl
  | cons c cs ih =>
    rw [List.forall_mem_cons] at h
    exact Bracketed.trees?_cons h.1 (ih h.2)

/-- The list of a tree stands for the tree. -/
theorem IsNamed.tree?_bracketed (h : t.IsNamed) : t.bracketed.tree? = some t := by
  induction t using inductionOn with
  | num v => rw [bracketed, Bracketed.tree?, Decimal.number?_ofInt64]
  | var name => exact Bracketed.tree?_word (isNamed_var_iff.1 h)
  | unary op e ih =>
    rw [bracketed, Bracketed.tree?_list (Bracketed.trees?_cons (ih h) rfl)]
    cases op <;> rfl
  | binary l op r ihl ihr =>
    rw [isNamed_binary_iff] at h
    rw [bracketed,
      Bracketed.tree?_list (Bracketed.trees?_cons (ihl h.1) (Bracketed.trees?_cons (ihr h.2) rfl))]
    cases op <;> rfl
  | assign name e ih =>
    rw [isNamed_assign_iff] at h
    have hname := Bracketed.tree?_word h.1
    rw [bracketed,
      Bracketed.tree?_list (Bracketed.trees?_cons hname (Bracketed.trees?_cons (ih h.2) rfl))]
    rfl
  | compound cs ih =>
    rw [isNamed_compound_iff] at h
    cases cs with
    | nil => rfl
    | cons c cs =>
      have hne : c :: cs ≠ [var ""] := by
        intro heq
        have hempty : IsName "" := isNamed_var_iff.1 (h (var "") (by simp [heq]))
        exact hempty.toList_ne_nil rfl
      have hcs := trees?_bracketeds fun d hd => ih d hd (h d hd)
      rw [bracketed, ← bracketeds, Bracketed.tree?_list hcs, Bracketed.listTree?_begin hne]
  | noop => rfl

end Tree

variable {a b : Tree}

/-- **Bracketed lists are unambiguous.** Trees of any shape have different lists if they are
different, as long as their variables are called by names.

**Proof sketch.** The text determines the list before it was written, and that stands for one tree
only. -/
theorem lisp_unambiguous (ha : a.IsNamed) (hb : b.IsNamed) : a.lisp = b.lisp ↔ a = b := by
  refine ⟨fun h => ?_, congrArg Tree.lisp⟩
  have hchars : a.bracketed.chars ++ [] = b.bracketed.chars ++ [] := by
    rw [← a.toList_lisp, ← b.toList_lisp, h]
  have hnil : Bracketed.EndsItems [] := by simp [Bracketed.EndsItems]
  have hlist : a.bracketed = b.bracketed :=
    (ha.isPlain.isTold b.bracketed [] [] hb.isPlain hnil hnil hchars).1
  have htree := ha.tree?_bracketed
  rw [hlist, hb.tree?_bracketed] at htree
  exact (Option.some.inj htree).symm

/-- Trees that are easily mistaken for each other: signs and operations with one symbol, negative
integers and signs before integers, blocks and variables called like their keywords, and statements
where expressions are expected. -/
def lookalikes : List Tree :=
  [.unary .minus (.num 5), .num (-5), .num 5, .unary .plus (.var "x"),
    .binary (.var "x") .plus (.var "x"), .unary .plus (.unary .plus (.var "x")),
    .var "begin", .var "BEGIN", .var "END", .noop, .compound [], .compound [.noop],
    .compound [.compound []], .compound [.var "begin"], .compound [.noop, .noop],
    .assign "x" .noop, .assign "x" (.assign "begin" (.num 1)),
    .binary (.assign "x" (.num 1)) .minus (.compound [])]

/-- No two of them have the same list. -/
theorem lisp_unambiguous_lookalikes :
    (∀ t ∈ lookalikes, t.IsNamed) ∧ lookalikes.Pairwise fun a b => a.lisp ≠ b.lisp := by
  have hname : IsName "x" ∧ IsName "begin" ∧ IsName "BEGIN" ∧ IsName "END" := by
    refine ⟨?_, ?_, ?_, ?_⟩ <;> exact Token.Kind.spells_of_isAlpha (by simp) (by simp)
  have hnamed : ∀ t ∈ lookalikes, t.IsNamed := by
    simp [lookalikes, Tree.IsNamed, Tree.accesses, Tree.accessesOf, Access.name, hname]
  have hdistinct : lookalikes.Pairwise (· ≠ ·) := by decide +kernel
  refine ⟨hnamed, hdistinct.imp_of_mem ?_⟩
  intro a b ha hb hne h
  exact hne ((lisp_unambiguous (hnamed a ha) (hnamed b hb)).1 h)

/-- A word that is no name can be written like any other tree. -/
example : (Tree.var "()").lisp = Tree.noop.lisp := rfl

end BlockLang
