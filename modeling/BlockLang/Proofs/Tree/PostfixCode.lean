import BlockLang.Proofs.Evaluation.Exact
import BlockLang.Proofs.Tree.Printable
import BlockLang.Tree.Postfix

set_option relaxedAutoImplicit false
set_option autoImplicit false

/-!
# Postfix text as code

The postfix text of an expression is a row of words with single spaces between them, one for each
node in the order of evaluation. A word can be taken for what the node does: an integer and a name
bring a value, and a sign and an operation act on values that are there. Only the words of the signs
can be taken in two ways, as they are names too.

## Main definitions

* `BlockLang.Instruction` — what a node of an expression does.
* `BlockLang.Tree.code` — what the nodes of an expression do, in the order of evaluation.
* `BlockLang.words` — the words of a text between its spaces.
* `BlockLang.Instruction.ofWord` — what a word is taken for.

## Main results

* `BlockLang.Tree.words_rpn` — the words of the postfix text of an expression.
* `BlockLang.Instruction.ofWord_word_or` — a word is taken for what it was written for, unless it is
  a name that is the word of a sign.
-/

namespace BlockLang

/-! ## Numbers and signs as words -/

/-- The sign that a word stands for. -/
def UnaryOp.ofWord? (word : String) : Option UnaryOp :=
  if word = "pos" then some plus else if word = "neg" then some minus else none

lemma UnaryOp.ofWord?_eq_some_iff {word : String} {op : UnaryOp} :
    ofWord? word = some op ↔ word = op.word := by
  cases op <;> grind [ofWord?, UnaryOp.word]

/-- The words of the signs are names. -/
lemma UnaryOp.isName_word (op : UnaryOp) : IsName op.word := by
  cases op <;> exact Token.Kind.spells_of_isAlpha (by simp [word]) (by simp [word])

namespace Decimal

/-- Whether the characters are digits, and at least one. -/
def isNumeral (cs : List Char) : Bool :=
  !cs.isEmpty && cs.all Char.isDigit

/-- The 64-bit integer that a decimal text stands for, which may begin with a minus sign. -/
def number? : List Char → Option Int64
  | '-' :: cs => if isNumeral cs then int64? (-value cs) else none
  | cs => if isNumeral cs then int64? (value cs) else none

lemma isNumeral_digits (n : Nat) : isNumeral (digits n) = true := by
  have hall : (digits n).all Char.isDigit = true :=
    List.all_eq_true.2 fun c hc => isDigit_of_mem_digits hc
  simp [isNumeral, hall, digits_ne_nil]

/-- A 64-bit integer is read from its own text. -/
lemma number?_ofInt64 (v : Int64) : number? (ofInt64 v).toList = some v := by
  rw [ofInt64, ofInt]
  split
  · next hneg =>
    have hvalue : -((v.toInt.natAbs : Nat) : Int) = v.toInt := by omega
    have htext : ("-" ++ String.ofList (digits v.toInt.natAbs)).toList =
        '-' :: digits v.toInt.natAbs := by simp
    rw [htext, number?, if_pos (isNumeral_digits _), value_digits, hvalue, int64?_toInt]
  · next hnonneg =>
    have hvalue : ((v.toInt.natAbs : Nat) : Int) = v.toInt := by omega
    rw [String.toList_ofList]
    unfold number?
    split
    · next cs hcs =>
      have hdigit : ('-' : Char).isDigit = true := isDigit_of_mem_digits (hcs ▸ List.mem_cons_self)
      exact absurd hdigit (by decide)
    · rw [if_pos (isNumeral_digits _), value_digits, hvalue, int64?_toInt]

end Decimal

/-! ## Instructions -/

/-- What a node of an expression does to the values that are there. -/
inductive Instruction where
  /-- It adds a given value. -/
  | push (value : Int64)
  /-- It adds the value of a variable. -/
  | load (name : String)
  /-- It puts a sign before the last value. -/
  | unary (op : UnaryOp)
  /-- It joins the last two values. -/
  | binary (op : BinaryOp)
deriving DecidableEq, Repr

namespace Instruction

/-- The word for an instruction in a postfix text. -/
def word : Instruction → String
  | push value => Decimal.ofInt64 value
  | load name => name
  | unary op => op.word
  | binary op => op.symbol

/-- The instruction that a word is taken for: integers, signs and operations are known by their
words, and any other word is taken for the name of a variable. -/
def ofWord (word : String) : Instruction :=
  match Decimal.number? word.toList with
  | some value => push value
  | none =>
    match UnaryOp.ofWord? word with
    | some op => unary op
    | none =>
      match BinaryOp.ofSymbol? word with
      | some op => binary op
      | none => load word

/-- The variable of the instruction, if it has one, is called by a name. -/
def IsNamed (i : Instruction) : Prop :=
  ∀ name, i = load name → IsName name

end Instruction

/-- The characters that can stand in a word of a postfix text. -/
def isPostfixChar (c : Char) : Bool :=
  isWordChar c || ['+', '-', '*', '/'].contains c

lemma isPostfixChar_of_isWordChar {c : Char} (h : isWordChar c = true) :
    isPostfixChar c = true := by
  rw [isPostfixChar, h, Bool.true_or]

lemma isPostfixChar_symbol :
    isPostfixChar '+' = true ∧ isPostfixChar '-' = true ∧ isPostfixChar '*' = true ∧
    isPostfixChar '/' = true := by
  simp [isPostfixChar]

/-- Neither a space nor a colon stands in a word. -/
lemma isPostfixChar_eq_false : isPostfixChar ' ' = false ∧ isPostfixChar ':' = false := by
  simp [isPostfixChar, isWordChar_eq_isAlphanum_or]

lemma IsName.isPostfixChar {name : String} (h : IsName name) :
    ∀ c ∈ name.toList, isPostfixChar c = true := by
  obtain ⟨d, ds, hname, hletter, hword⟩ := h
  rw [hname]
  refine List.forall_mem_cons.2
    ⟨isPostfixChar_of_isWordChar (isWordChar_of_isLetter hletter), fun c hc => ?_⟩
  exact isPostfixChar_of_isWordChar (hword c hc)

lemma isPostfixChar_of_mem_ofInt64 (v : Int64) :
    ∀ c ∈ (Decimal.ofInt64 v).toList, isPostfixChar c = true := by
  have hdigits (n : Nat) :
      ∀ c ∈ (String.ofList (Decimal.digits n)).toList, isPostfixChar c = true := by
    intro c hc
    rw [String.toList_ofList] at hc
    exact isPostfixChar_of_isWordChar (isWordChar_of_isDigit (Decimal.isDigit_of_mem_digits hc))
  rw [Decimal.ofInt64, Decimal.ofInt]
  split
  · rw [String.toList_append]
    exact List.forall_mem_append.2 ⟨by simp [isPostfixChar_symbol], hdigits _⟩
  · exact hdigits _

namespace Instruction

lemma isPostfixChar_of_mem_word {i : Instruction} (h : i.IsNamed) :
    ∀ c ∈ i.word.toList, isPostfixChar c = true := by
  cases i with
  | push v => exact isPostfixChar_of_mem_ofInt64 v
  | load name => exact (h name rfl).isPostfixChar
  | unary op => exact op.isName_word.isPostfixChar
  | binary op => cases op <;> simp [word, BinaryOp.symbol, isPostfixChar_symbol]

lemma space_notMem_word {i : Instruction} (h : i.IsNamed) : ' ' ∉ i.word.toList := by
  intro hmem
  simpa [isPostfixChar_eq_false] using isPostfixChar_of_mem_word h ' ' hmem

lemma number?_eq_none_of_isName {name : String} (h : IsName name) :
    Decimal.number? name.toList = none := by
  obtain ⟨c, cs, hname, hletter, -⟩ := h
  have hminus : c ≠ '-' := by
    rintro rfl
    simp [Lexeme.isLetter_symbol] at hletter
  have hdigit : c.isDigit = false := by
    by_contra hdigit
    rw [isLetter_eq_false_of_isDigit (by simpa using hdigit)] at hletter
    cases hletter
  rw [hname]
  unfold Decimal.number?
  split
  · next cs' hcs => exact absurd (List.cons.inj hcs).1 hminus
  · simp [Decimal.isNumeral, hdigit]

lemma ofSymbol?_eq_none_of_isName {name : String} (h : IsName name) :
    BinaryOp.ofSymbol? name = none := by
  obtain ⟨c, cs, hname, hletter, -⟩ := h
  by_contra hsome
  obtain ⟨op, hop⟩ := Option.ne_none_iff_exists'.1 hsome
  rw [BinaryOp.ofSymbol?_eq_some_iff.1 hop] at hname
  have hhead : isLetter (op.symbol.toList.headD ' ') = false := by
    cases op <;> simp [BinaryOp.symbol, Lexeme.isLetter_symbol]
  rw [hname, List.headD_cons, hletter] at hhead
  cases hhead

/-- A word is taken for what it was written for, unless it is a name that is the word of a sign.
That is taken for the sign. -/
lemma ofWord_word_or {i : Instruction} (h : i.IsNamed) :
    ofWord i.word = i ∨ ∃ op : UnaryOp, i = load op.word ∧ ofWord i.word = unary op := by
  cases i with
  | push v =>
    left
    simp [ofWord, word, Decimal.number?_ofInt64]
  | load name =>
    have hnumber := number?_eq_none_of_isName (h name rfl)
    have hsymbol := ofSymbol?_eq_none_of_isName (h name rfl)
    rcases hsign : UnaryOp.ofWord? name with _ | op
    · left
      simp [ofWord, word, hnumber, hsymbol, hsign]
    · right
      refine ⟨op, ?_, by simp [ofWord, word, hnumber, hsign]⟩
      rw [UnaryOp.ofWord?_eq_some_iff.1 hsign]
  | unary op =>
    left
    have hnumber := number?_eq_none_of_isName op.isName_word
    simp [ofWord, word, hnumber, UnaryOp.ofWord?_eq_some_iff.2 rfl]
  | binary op =>
    left
    cases op <;> simp [ofWord, word, BinaryOp.symbol, Decimal.number?, Decimal.isNumeral,
      UnaryOp.ofWord?, BinaryOp.ofSymbol?]

end Instruction

/-! ## Code -/

namespace Tree

/-- What the nodes of an expression do, in the order of evaluation. -/
def code : Tree → List Instruction
  | num value => [.push value]
  | var name => [.load name]
  | unary op e => code e ++ [.unary op]
  | binary l op r => code l ++ (code r ++ [.binary op])
  | assign _ _ | compound _ | noop => []

variable {t : Tree}

lemma load_mem_code {name : String} : .load name ∈ t.code ↔ var name ∈ t.nodes := by
  fun_induction nodes t with
  | case1 op e ih => simp [code, ih]
  | case2 l op r ihl ihr => simp [code, ihl, ihr]
  | case3 t hunary hbinary => cases t <;> simp_all [code]

lemma unary_mem_code {op : UnaryOp} : .unary op ∈ t.code ↔ ∃ e, unary op e ∈ t.nodes := by
  fun_induction nodes t with
  | case1 op e ih => simp [code, ih, exists_or, eq_comm]
  | case2 l op r ihl ihr => simp [code, ihl, ihr, exists_or]
  | case3 t hunary hbinary => cases t <;> simp_all [code]

/-- The instructions of an expression are named if its variables are. -/
lemma isNamed_of_mem_code (h : ∀ name, var name ∈ t.nodes → IsName name) :
    ∀ i ∈ t.code, i.IsNamed := by
  rintro i hi name rfl
  exact h name (load_mem_code.1 hi)

lemma IsArithmetic.code_ne_nil (h : t.IsArithmetic) : t.code ≠ [] := by
  cases h <;> simp [code]

/-- The postfix text of an expression is that of its code. -/
theorem IsArithmetic.rpn_eq_intercalate (h : t.IsArithmetic) :
    t.rpn = String.intercalate " " (t.code.map Instruction.word) := by
  induction h with
  | num | var => simp [rpn, code, Instruction.word]
  | @unary op e he ih =>
    have hne : e.code.map Instruction.word ≠ [] := by simpa using he.code_ne_nil
    rw [rpn, code, ih, List.map_append, String.intercalate_append_of_ne_nil hne (by simp)]
    simp [Instruction.word]
  | @binary op l r hl hr ihl ihr =>
    have hnel : l.code.map Instruction.word ≠ [] := by simpa using hl.code_ne_nil
    have hner : r.code.map Instruction.word ≠ [] := by simpa using hr.code_ne_nil
    rw [rpn, code, ihl, ihr, List.map_append, List.map_append,
      String.intercalate_append_of_ne_nil hnel (by simp),
      String.intercalate_append_of_ne_nil hner (by simp)]
    simp [Instruction.word, String.append_assoc]

end Tree

/-! ## Words between spaces -/

/-- The words of a text, cut at every single space. -/
def words (text : String) : List String :=
  (text.toList.splitOn ' ').map String.ofList

/-- Words without spaces are found again in the text that they make. -/
lemma words_intercalate {ws : List String} (hne : ws ≠ []) (h : ∀ w ∈ ws, ' ' ∉ w.toList) :
    words (String.intercalate " " ws) = ws := by
  have hsplit : (List.intercalate [' '] (ws.map String.toList)).splitOn ' ' =
      ws.map String.toList :=
    List.splitOn_intercalate ' ' (by simpa using h) (by simpa using hne)
  simp [words, String.toList_intercalate, hsplit]

/-- The words of the postfix text of an expression are those of its code. -/
theorem Tree.words_rpn {t : Tree} (ht : t.IsArithmetic)
    (h : ∀ name, var name ∈ t.nodes → IsName name) :
    words t.rpn = t.code.map Instruction.word := by
  rw [ht.rpn_eq_intercalate]
  refine words_intercalate (by simpa using ht.code_ne_nil) ?_
  simpa using fun i hi => Instruction.space_notMem_word (isNamed_of_mem_code h i hi)

end BlockLang
