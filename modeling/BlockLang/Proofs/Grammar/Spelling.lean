import BlockLang.Proofs.Grammar.Acceptance
import BlockLang.Proofs.Grammar.FirstError
import BlockLang.Proofs.Token.Respelling
import BlockLang.Proofs.Tree.Printable

set_option relaxedAutoImplicit false
set_option autoImplicit false

/-!
# The spelling of keywords

However the keywords of a text are spelt, in upper or lower case, parsing comes to the same verdict.
Which tokens are taken does not depend on the trees that a state holds, and `BEGIN` and `END` play
their parts in every spelling; so an error stays where it is and says the same, up to the spelling
of the token that it blames. A tree shows a spelling only where `BEGIN` is an operand.

## Main definitions

* `BlockLang.Automaton.DecidedByCore` — what is taken does not depend on trees and spelling.
* `BlockLang.operandNames` — the names that stand as operands among tokens.
* `BlockLang.Tree.Respelt` — trees that differ in the spelling of operands.
* `BlockLang.SameVerdict` — the results of parsing two texts with the same tokens up to spelling.

## Main results

* `BlockLang.Automaton.Stops.respelt` — an automaton stops at the same place, for the same reason.
* `BlockLang.Expression.Derives.respelt`, `BlockLang.Program.Derives.respelt` — the grammar derives
  trees that differ in the spelling of operands.
* `BlockLang.keyword_spelling_never_matters` — parsing two such texts.
-/

namespace BlockLang

/-! ## Tokens -/

/-- A token spells one keyword at most. -/
lemma Token.eq_of_isKeyword {t : Token} {keyword keyword' : String} (hmem : keyword ∈ keywords)
    (hmem' : keyword' ∈ keywords) (h : t.isKeyword keyword = true)
    (h' : t.isKeyword keyword' = true) : keyword = keyword' := by
  have hall : ∀ k ∈ keywords, ∀ k' ∈ keywords, foldCase k = foldCase k' → k = k' := by decide
  simp only [isKeyword, Bool.and_eq_true, beq_iff_eq] at h h'
  exact hall keyword hmem keyword' hmem' (h.2.symm.trans h'.2)

namespace Token.Respelt

variable {t t' : Token}

/-- Only names are spelt otherwise. -/
lemma eq_of_kind_ne (h : t.Respelt t') (hkind : t.kind ≠ .identifier) : t' = t := by
  cases h with
  | refl => rfl
  | keyword _ h => exact absurd (kind_of_isKeyword h) hkind

lemma eq_of_is {kind : Kind} {text : String} (h : t.Respelt t') (ht : t.is kind text = true)
    (hkind : kind ≠ .identifier) : t' = t := by
  obtain ⟨rfl, -⟩ := is_eq_true_iff.1 ht
  exact h.eq_of_kind_ne hkind

/-- A keyword stays the same keyword. -/
lemma isKeyword_eq (h : t.Respelt t') {keyword : String} (hmem : keyword ∈ keywords) :
    t'.isKeyword keyword = t.isKeyword keyword := by
  cases h with
  | refl => rfl
  | keyword hmem' h h' =>
    by_cases hsame : t.isKeyword keyword = true
    · rw [hsame, eq_of_isKeyword hmem hmem' hsame h, h']
    · have hother : t'.isKeyword keyword ≠ true := fun hkeyword =>
        hsame (eq_of_isKeyword hmem hmem' hkeyword h' ▸ h)
      rw [Bool.eq_false_iff.2 hsame, Bool.eq_false_iff.2 hother]

/-- A name that is no keyword is not spelt otherwise. -/
lemma eq_of_isKeyword_eq_false (h : t.Respelt t') (hbegin : t.isKeyword "BEGIN" = false)
    (hend : t.isKeyword "END" = false) : t' = t := by
  cases h with
  | refl => rfl
  | keyword hmem h =>
    simp only [keywords, List.mem_cons, List.not_mem_nil, or_false] at hmem
    rcases hmem with rfl | rfl
    · simp [hbegin] at h
    · simp [hend] at h

lemma kind_eq (h : t.Respelt t') : t'.kind = t.kind := by
  cases h with
  | refl => rfl
  | keyword _ h h' => rw [kind_of_isKeyword h, kind_of_isKeyword h']

end Token.Respelt

/-- The terminal without the spelling of `BEGIN`. -/
def Terminal.unspelt : Terminal → Terminal
  | blockBegin _ => blockBegin "BEGIN"
  | x => x

/-- Tokens that are the same up to spelling play the same part. -/
lemma Token.Respelt.unspelt_terminal {t t' : Token} (h : t.Respelt t') :
    t'.terminal.unspelt = t.terminal.unspelt := by
  cases h with
  | refl => rfl
  | keyword hmem h h' =>
    simp only [keywords, List.mem_cons, List.not_mem_nil, or_false] at hmem
    rcases hmem with rfl | rfl
    · rw [terminal_eq_blockBegin_iff.2 ⟨h, rfl⟩, terminal_eq_blockBegin_iff.2 ⟨h', rfl⟩]
      rfl
    · rw [terminal_eq_blockEnd_iff.2 h, terminal_eq_blockEnd_iff.2 h']

@[simp] lemma Terminal.unspelt_unspelt (x : Terminal) : x.unspelt.unspelt = x.unspelt := by
  cases x <;> rfl

/-! ## States without their trees -/

/-- Results that are the same in view of a function are both errors or both values. -/
lemma error_or_ok_of_map_eq {ε α β : Type} {f : α → β} {a b : Except ε α}
    (h : a.map f = b.map f) :
    (∃ e, a = .error e ∧ b = .error e) ∨ ∃ u v, a = .ok u ∧ b = .ok v ∧ f u = f v := by
  rcases a with e | u <;> rcases b with e' | v
  · exact Or.inl ⟨e, rfl, congrArg _ (Except.error.inj h).symm⟩
  · cases h
  · cases h
  · exact Or.inr ⟨u, v, rfl, rfl, Except.ok.inj h⟩

lemma eq_error_of_map_eq {ε α β : Type} {f : α → β} {a b : Except ε α} {e : ε}
    (h : a.map f = b.map f) (hb : b = .error e) : a = .error e := by
  rcases error_or_ok_of_map_eq h with ⟨e', ha, hb'⟩ | ⟨u, v, -, hb', -⟩
  · rw [ha, ← hb', hb]
  · cases hb.symm.trans hb'

namespace Automaton

variable {State : Type} {m : Automaton State} {core : State → State}

/-- What an automaton takes and what it refuses is decided by the core of its state, in which there
are no trees, and does not depend on the spelling of keywords. -/
structure DecidedByCore (m : Automaton State) (core : State → State) : Prop where
  step : ∀ s x, (m.step s x).map core = (m.step (core s) x.unspelt).map core
  finish : ∀ s, (m.finish s).map (fun _ => ()) = (m.finish (core s)).map fun _ => ()

namespace DecidedByCore

variable {s s' : State}

/-- States with the same core go on to states with the same core, or refuse for the same reason. -/
lemma step_congr (hm : m.DecidedByCore core) {x x' : Terminal} (hs : core s' = core s)
    (hx : x'.unspelt = x.unspelt) : (m.step s' x').map core = (m.step s x).map core := by
  rw [hm.step, hs, hx, ← hm.step]

lemma finish_congr (hm : m.DecidedByCore core) (hs : core s' = core s) :
    (m.finish s').map (fun _ => ()) = (m.finish s).map fun _ => () := by
  rw [hm.finish, hs, ← hm.finish]

end DecidedByCore

/-- Tokens that are the same up to spelling lead from states with the same core to states with the
same core. -/
lemma Reaches.respelt (hm : m.DecidedByCore core) {pairs : List (Token × Token)} {s s' u : State}
    (hs : core s' = core s) (hpairs : ∀ q ∈ pairs, q.1.Respelt q.2)
    (h : m.Reaches s (pairs.map Prod.fst) u) :
    ∃ u', m.Reaches s' (pairs.map Prod.snd) u' ∧ core u' = core u := by
  induction pairs generalizing s s' with
  | nil =>
    obtain rfl : s = u := h
    exact ⟨s', reaches_nil s', hs⟩
  | cons q pairs ih =>
    obtain ⟨v, hv, hu⟩ := h
    rw [List.forall_mem_cons] at hpairs
    have hstep := hm.step_congr hs hpairs.1.unspelt_terminal
    rw [hv] at hstep
    rcases error_or_ok_of_map_eq hstep with ⟨e, -, he⟩ | ⟨v', w, hv', hw, hcore⟩
    · cases he
    · obtain rfl := Except.ok.inj hw
      obtain ⟨u', hu', hcore'⟩ := ih hcore hpairs.2 hu
      exact ⟨u', ⟨v', hv', hu'⟩, hcore'⟩

/-- An automaton stops over a text in which keywords are spelt otherwise at the same place and for
the same reason, if it may be at another spelling of the same keyword. -/
theorem Stops.respelt (hm : m.DecidedByCore core) {cs cs' : List Char} {r : Reading}
    {err : ParseError} (h : m.Stops cs r err)
    (hcs : Recased (Cursor.InKeyword ⟨cs, 0, 0⟩) 0 cs cs') :
    m.Stops cs' r err ∨
      ∃ (t t' : Token) (refusal : Refusal), r = .token t ∧ t.Respelt t' ∧
        err = refusal.error t err.position ∧
          m.Stops cs' (.token t') (refusal.error t' err.position) := by
  cases h with
  | @eof read toks s refusal hread hs hrefuses =>
    rw [← List.append_nil cs] at hcs
    obtain ⟨ds, rest', pairs, rfl, rfl, hwording, hrest⟩ := hread.recased hcs
    cases hrest
    obtain ⟨s', hs', hcore⟩ := hs.respelt hm rfl hwording.respelt
    rw [List.append_nil, ← hwording.length_eq]
    exact Or.inl (.eof hwording.wording' hs' (eq_error_of_map_eq (hm.finish_congr hcore) hrefuses))
  | @invalid read rest toks s ch hread hs hblank hno =>
    obtain ⟨ds, rest', pairs, rfl, rfl, hwording, hrest⟩ := hread.recased hcs
    -- What follows the character has not changed, as nothing is read there.
    obtain rfl : rest' = ch :: rest :=
      hrest.eq_of_forall_not fun i _ _ => Cursor.not_inKeyword_invalid hblank hno
    obtain ⟨s', hs', hcore⟩ := hs.respelt hm rfl hwording.respelt
    rw [← hwording.length_eq]
    exact Or.inl (.invalid hwording.wording' hs' hblank hno)
  | @word read chars rest toks s kind refusal hread hs hspells hends hrefuses =>
    obtain ⟨ds, rest', pairs, rfl, rfl, hwording, hrest⟩ := hread.recased hcs
    obtain ⟨chars', rest', rfl, hchars, hrest'⟩ := hrest.exists_append
    obtain ⟨hspells', hrespelt⟩ := hspells.recased hends hchars
    obtain ⟨s', hs', hcore⟩ := hs.respelt hm rfl hwording.respelt
    have hrefuses' : m.step s' (Token.ofChars kind chars').terminal = .error refusal :=
      eq_error_of_map_eq (hm.step_congr hcore hrespelt.unspelt_terminal) hrefuses
    have hstops := Stops.word hwording.wording' hs' hspells' (hends.recased hrest') hrefuses'
    rw [hwording.length_eq] at hstops
    rw [position_error]
    exact Or.inr ⟨_, _, refusal, rfl, hrespelt, rfl, hstops⟩

end Automaton

/-- The state without its trees. -/
def Expression.State.core : State → State
  | operand _ outer => operand .empty (outer.map fun _ => .empty)
  | operator _ _ outer => operator .noop none (outer.map fun _ => .empty)

lemma Expression.decidedByCore : automaton.DecidedByCore State.core where
  step s x := by
    cases s with
    | operand chain outer =>
      cases x with
      | integer digits =>
        rcases hliteral : Decimal.literal? digits.toList with _ | v <;>
          simp [automaton, State.step, State.core, State.stepOperand, Terminal.unspelt, hliteral,
            Except.map]
      | operator op =>
        rcases hsign : op.sign? with _ | sign <;>
          simp [automaton, State.step, State.core, State.stepOperand, Terminal.unspelt, hsign,
            Except.map]
      | _ =>
        simp [automaton, State.step, State.core, State.stepOperand, Terminal.unspelt, Except.map]
    | operator term sum outer =>
      cases x with
      | operator op =>
        cases op <;>
          simp [automaton, State.step, State.core, State.stepOperator, Terminal.unspelt, Except.map]
      | _ =>
        cases outer <;>
          simp [automaton, State.step, State.core, State.stepOperator, Terminal.unspelt, Except.map]
  finish s := by
    cases s with
    | operand chain outer => rfl
    | operator term sum outer => cases outer <;> rfl

/-- The blocks without their statements. -/
def Program.Blocks.core (b : Blocks) : Blocks :=
  ⟨[], b.outer.map fun _ => []⟩

/-- The state without its trees and names. -/
def Program.State.core : State → State
  | start => start
  | statement blocks => statement blocks.core
  | target _ blocks => target "" blocks.core
  | value _ expression blocks => value "" expression.core blocks.core
  | closed _ blocks => closed .noop blocks.core
  | period _ => period .noop
  | finished _ => finished .noop

@[simp] lemma Program.Blocks.core_core (b : Blocks) : b.core.core = b.core := by
  simp [core]

lemma Program.core_afterStatement (blocks : Blocks) (t : Tree) (x : Terminal) :
    (State.afterStatement blocks t x).map State.core =
      (State.afterStatement blocks.core .noop x.unspelt).map State.core := by
  rcases blocks with ⟨current, _ | ⟨inner, outer⟩⟩ <;> cases x <;>
    simp [State.afterStatement, State.core, Blocks.core, Blocks.add, Terminal.unspelt, Except.map]

lemma Program.decidedByCore : automaton.DecidedByCore State.core where
  step s x := by
    cases s with
    | start | period | finished => cases x <;> rfl
    | target name blocks =>
      cases x <;> simp [automaton, State.step, State.core, Terminal.unspelt, Except.map]
    | statement blocks =>
      cases x with
      | blockBegin | name =>
        simp [automaton, State.step, State.core, Blocks.core, Blocks.push, Terminal.unspelt,
          Except.map]
      | _ =>
        simp only [automaton, State.step, State.core, core_afterStatement blocks .noop]
        rfl
    | closed b blocks => exact core_afterStatement blocks b x
    | value name expression blocks =>
      simp only [automaton, State.step, State.core]
      rcases error_or_ok_of_map_eq (Expression.decidedByCore.step expression x) with
        ⟨refusal, hs, hs'⟩ | ⟨u, u', hs, hs', hcore⟩
      · simp only [Expression.automaton] at hs hs'
        rcases error_or_ok_of_map_eq (Expression.decidedByCore.finish expression) with
          ⟨refusal', hf, hf'⟩ | ⟨e, e', hf, hf', -⟩
        · simp only [Expression.automaton] at hf hf'
          simp only [hs, hs', hf, hf', Except.map]
        · simp only [Expression.automaton] at hf hf'
          simp only [hs, hs', hf, hf']
          rw [core_afterStatement blocks, core_afterStatement blocks.core (.assign "" e'),
            Blocks.core_core, Terminal.unspelt_unspelt]
      · simp only [Expression.automaton] at hs hs'
        simp only [hs, hs', Except.map, State.core, hcore, Blocks.core_core]
  finish s := by
    cases s with
    | value name expression blocks =>
      rcases error_or_ok_of_map_eq (Expression.decidedByCore.finish expression) with
        ⟨refusal, hf, hf'⟩ | ⟨e, e', hf, hf', -⟩ <;>
      · simp only [Expression.automaton] at hf hf'
        simp only [automaton, State.finish, State.core, hf, hf', Except.map]
    | _ => rfl

/-! ## Trees -/

/-- An operand is to come after the token: it is an operator, an opening bracket or the sign of an
assignment. -/
def Token.awaitsOperand (t : Token) : Bool :=
  t.kind == .operator || t.is .bracket "(" || t.is .sign ":="

/-- The token may be the name of an operand. -/
def Token.isOperandName (t : Token) : Bool :=
  t.kind == .identifier && !t.isKeyword "END"

/-- The names that stand as operands among tokens, each in the spelling of the one and of the other
of two texts. They are the names that stand where an operand is to come; `awaited` says whether
that is so before the first token. -/
def operandNames (awaited : Bool) : List (Token × Token) → List (String × String)
  | [] => []
  | (t, t') :: pairs =>
    if awaited && t.isOperandName then
      (t.text, t'.text) :: operandNames t.awaitsOperand pairs
    else
      operandNames t.awaitsOperand pairs

/-- Two names are the same, or both are spellings of `BEGIN`. -/
def SameName (name name' : String) : Prop :=
  name' = name ∨
    Token.foldCase name = Token.foldCase "BEGIN" ∧ Token.foldCase name' = Token.foldCase "BEGIN"

/-- The trees are the same but for the names of their operands, which are from left to right those
in the list, and of which each is the same in both trees or a spelling of `BEGIN`. -/
inductive Tree.Respelt : List (String × String) → Tree → Tree → Prop where
  | num (v : Int64) : Respelt [] (num v) (num v)
  | var {name name' : String} (h : SameName name name') :
      Respelt [(name, name')] (var name) (var name')
  | unary {names : List (String × String)} {e e' : Tree} (op : UnaryOp) (he : Respelt names e e') :
      Respelt names (unary op e) (unary op e')
  | binary {names names' : List (String × String)} {l l' r r' : Tree} (op : BinaryOp)
      (hl : Respelt names l l') (hr : Respelt names' r r') :
      Respelt (names ++ names') (binary l op r) (binary l' op r')
  | assign {names : List (String × String)} {e e' : Tree} (name : String)
      (he : Respelt names e e') : Respelt names (assign name e) (assign name e')
  | empty : Respelt [] (compound []) (compound [])
  | next {names names' : List (String × String)} {cs cs' : List Tree} {c c' : Tree}
      (hcs : Respelt names (compound cs) (compound cs')) (hc : Respelt names' c c') :
      Respelt (names ++ names') (compound (cs ++ [c])) (compound (cs' ++ [c']))
  | noop : Respelt [] noop noop

section

variable {awaited : Bool} {t t' : Token} {pairs pairs' : List (Token × Token)}

lemma Token.awaitsOperand_of_is {kind : Kind} {text : String} (h : t.is kind text = true) :
    t.awaitsOperand =
      (kind == .operator || kind == .bracket && text == "(" || kind == .sign && text == ":=") := by
  obtain ⟨rfl, rfl⟩ := is_eq_true_iff.1 h
  rfl

lemma Token.isOperandName_of_is {kind : Kind} {text : String} (h : t.is kind text = true)
    (hkind : kind ≠ .identifier) : t.isOperandName = false := by
  obtain ⟨rfl, -⟩ := is_eq_true_iff.1 h
  simp [isOperandName, hkind]

lemma Token.awaitsOperand_of_isKeyword {keyword : String} (h : t.isKeyword keyword = true) :
    t.awaitsOperand = false := by
  simp [awaitsOperand, Token.is, kind_of_isKeyword h]

/-- The first token is the name of no operand where none is to come. -/
lemma operandNames_false_cons :
    operandNames false ((t, t') :: pairs) = operandNames t.awaitsOperand pairs :=
  rfl

lemma operandNames_cons (h : t.isOperandName = false) :
    operandNames awaited ((t, t') :: pairs) = operandNames t.awaitsOperand pairs := by
  simp [operandNames, h]

/-- A token that is no name parts the operands before it from those after it. -/
lemma operandNames_append (h : t.isOperandName = false) :
    operandNames awaited (pairs ++ (t, t') :: pairs') =
      operandNames awaited pairs ++ operandNames t.awaitsOperand pairs' := by
  induction pairs generalizing awaited with
  | nil => exact operandNames_cons h
  | cons q pairs ih =>
    simp only [List.cons_append, operandNames, ih]
    split <;> rfl

/-- A name that is not `END` stays the same name up to the spelling of `BEGIN`. -/
lemma Token.Respelt.sameName (h : t.Respelt t') (hend : t.isKeyword "END" = false) :
    SameName t.text t'.text := by
  by_cases hbegin : t.isKeyword "BEGIN" = true
  · have hbegin' := hbegin
    rw [← h.isKeyword_eq (by decide)] at hbegin'
    simp only [isKeyword, Bool.and_eq_true, beq_iff_eq] at hbegin hbegin'
    exact Or.inr ⟨hbegin.2, hbegin'.2⟩
  · rw [h.eq_of_isKeyword_eq_false (Bool.eq_false_iff.2 hbegin) hend]
    exact Or.inl rfl

/-- A symbol is not spelt otherwise, and it parts what comes before it from what comes after it. -/
lemma exists_parts_of_is {kind : Token.Kind} {text : String} {ts us : List Token}
    (ht : t.is kind text = true) (hkind : kind ≠ .identifier)
    (hts : pairs.map Prod.fst = ts ++ t :: us) (hpairs : ∀ q ∈ pairs, q.1.Respelt q.2) :
    ∃ left right, left.map Prod.fst = ts ∧ right.map Prod.fst = us ∧
      (∀ q ∈ left, q.1.Respelt q.2) ∧ (∀ q ∈ right, q.1.Respelt q.2) ∧
      pairs.map Prod.snd = left.map Prod.snd ++ t :: right.map Prod.snd ∧
      operandNames awaited pairs =
        operandNames awaited left ++ operandNames t.awaitsOperand right := by
  obtain ⟨left, last, rfl, hleft, hlast⟩ := List.map_eq_append_iff.1 hts
  obtain ⟨⟨_, t'⟩, right, rfl, rfl, hright⟩ := List.map_eq_cons_iff.1 hlast
  rw [List.forall_mem_append, List.forall_mem_cons] at hpairs
  obtain rfl : t' = _ := hpairs.2.1.eq_of_is ht hkind
  exact ⟨left, right, hleft, hright, hpairs.1, hpairs.2.2, by simp,
    operandNames_append (Token.isOperandName_of_is ht hkind)⟩

lemma exists_pair_of_map_eq_cons {ts : List Token} (h : pairs.map Prod.fst = t :: ts) :
    ∃ t' pairs', pairs = (t, t') :: pairs' ∧ pairs'.map Prod.fst = ts := by
  obtain ⟨⟨_, t'⟩, pairs', rfl, rfl, hts⟩ := List.map_eq_cons_iff.1 h
  exact ⟨t', pairs', rfl, hts⟩

end

/-- Tokens that differ in the spelling of keywords are the same part of an expression, and the
names of the tree are those that stand as operands.

**Proof sketch.** Induction on the derivation. No token that stands between two parts is a name, so
it is not spelt otherwise, and the operands are those before it and those after it. -/
theorem Expression.Derives.respelt {p : Part} {ts : List Token} {e : Tree} (h : Derives p ts e)
    {pairs : List (Token × Token)} (hts : pairs.map Prod.fst = ts)
    (hpairs : ∀ q ∈ pairs, q.1.Respelt q.2) :
    ∃ e', Derives p (pairs.map Prod.snd) e' ∧ Tree.Respelt (operandNames true pairs) e e' := by
  induction h generalizing pairs with
  | @sign t op ts e ht _ ih =>
    obtain ⟨t', pairs, rfl, rfl⟩ := exists_pair_of_map_eq_cons hts
    rw [List.forall_mem_cons] at hpairs
    obtain rfl : t' = _ := hpairs.1.eq_of_is ht (by decide)
    obtain ⟨e', he', htree⟩ := ih rfl hpairs.2
    refine ⟨.unary op e', .sign ht he', .unary op ?_⟩
    rwa [operandNames_cons (Token.isOperandName_of_is ht (by decide)),
      Token.awaitsOperand_of_is ht]
  | @integer t v ht hv =>
    obtain ⟨t', pairs, rfl, hnil⟩ := exists_pair_of_map_eq_cons hts
    obtain rfl := List.map_eq_nil_iff.1 hnil
    obtain rfl : t' = _ := (hpairs _ List.mem_cons_self).eq_of_kind_ne (by simp [ht])
    refine ⟨.num v, .integer ht hv, ?_⟩
    rw [operandNames_cons (by simp [Token.isOperandName, ht])]
    exact .num v
  | @bracket l r ts e hl _ hr ih =>
    obtain ⟨l', pairs, rfl, hpairs'⟩ := exists_pair_of_map_eq_cons hts
    rw [List.forall_mem_cons] at hpairs
    obtain rfl : l' = _ := hpairs.1.eq_of_is hl (by decide)
    obtain ⟨inner, last, hinner, hnil, hrespelt, -, hsnd, hnames⟩ :=
      exists_parts_of_is hr (by decide) hpairs' hpairs.2
    obtain rfl := List.map_eq_nil_iff.1 hnil
    obtain ⟨e', he', htree⟩ := ih hinner hrespelt
    refine ⟨e', by simpa [hsnd] using Derives.bracket hl he' hr, ?_⟩
    rw [operandNames_cons (Token.isOperandName_of_is hl (by decide)),
      Token.awaitsOperand_of_is hl, hnames]
    simpa [operandNames] using htree
  | @name t ht hend =>
    obtain ⟨t', pairs, rfl, hnil⟩ := exists_pair_of_map_eq_cons hts
    obtain rfl := List.map_eq_nil_iff.1 hnil
    have ht' : Token.Respelt _ t' := hpairs _ List.mem_cons_self
    refine ⟨.var t'.text, .name (ht'.kind_eq.trans ht) ?_, ?_⟩
    · rw [ht'.isKeyword_eq (by decide), hend]
    · simpa [operandNames, Token.isOperandName, ht, hend] using Tree.Respelt.var (ht'.sameName hend)
  | factor _ ih =>
    obtain ⟨e', he', htree⟩ := ih hts hpairs
    exact ⟨e', .factor he', htree⟩
  | term _ ih =>
    obtain ⟨e', he', htree⟩ := ih hts hpairs
    exact ⟨e', .term he', htree⟩
  | @product t op ts us l r _ hop ht _ ihl ihr =>
    obtain ⟨left, right, hleft, hright, hpairsl, hpairsr, hsnd, hnames⟩ :=
      exists_parts_of_is ht (by decide) hts hpairs
    obtain ⟨l', hl', htreel⟩ := ihl hleft hpairsl
    obtain ⟨r', hr', htreer⟩ := ihr hright hpairsr
    refine ⟨.binary l' op r', hsnd ▸ .product hl' hop ht hr', ?_⟩
    rw [hnames, Token.awaitsOperand_of_is ht]
    exact .binary op htreel htreer
  | @sum t op ts us l r _ hop ht _ ihl ihr =>
    obtain ⟨left, right, hleft, hright, hpairsl, hpairsr, hsnd, hnames⟩ :=
      exists_parts_of_is ht (by decide) hts hpairs
    obtain ⟨l', hl', htreel⟩ := ihl hleft hpairsl
    obtain ⟨r', hr', htreer⟩ := ihr hright hpairsr
    refine ⟨.binary l' op r', hsnd ▸ .sum hl' hop ht hr', ?_⟩
    rw [hnames, Token.awaitsOperand_of_is ht]
    exact .binary op htreel htreer

/-- Tokens that differ in the spelling of keywords are the same part of a program, with the same
blocks and the same names to assign to. -/
theorem Program.Derives.respelt {p : Part} {ts : List Token} {t : Tree} (h : Derives p ts t)
    {pairs : List (Token × Token)} (hts : pairs.map Prod.fst = ts)
    (hpairs : ∀ q ∈ pairs, q.1.Respelt q.2) :
    ∃ t', Derives p (pairs.map Prod.snd) t' ∧ Tree.Respelt (operandNames false pairs) t t' := by
  induction h generalizing pairs with
  | empty =>
    obtain rfl := List.map_eq_nil_iff.1 hts
    exact ⟨.noop, .empty, .noop⟩
  | @assignment t a es e ht hbegin hend ha he =>
    obtain ⟨t', pairs, rfl, hpairs'⟩ := exists_pair_of_map_eq_cons hts
    obtain ⟨a', pairs, rfl, hes⟩ := exists_pair_of_map_eq_cons hpairs'
    simp only [List.forall_mem_cons] at hpairs
    obtain ⟨ht', ha', hpairs⟩ := hpairs
    obtain rfl : t' = _ := ht'.eq_of_isKeyword_eq_false hbegin hend
    obtain rfl : a' = _ := ha'.eq_of_is ha (by decide)
    obtain ⟨e', he', htree⟩ := he.respelt hes hpairs
    refine ⟨.assign t'.text e', .assignment ht hbegin hend ha he', .assign _ ?_⟩
    rwa [operandNames_false_cons, operandNames_cons (Token.isOperandName_of_is ha (by decide)),
      Token.awaitsOperand_of_is ha]
  | nested _ ih =>
    obtain ⟨b', hb', htree⟩ := ih hts hpairs
    exact ⟨b', .nested hb', htree⟩
  | first _ ih =>
    obtain ⟨s', hs', htree⟩ := ih hts hpairs
    exact ⟨.compound [s'], .first hs', .next .empty htree⟩
  | @next t ts us cs s _ ht _ ihcs ih =>
    obtain ⟨before, after, hbefore, hafter, hpairsb, hpairsa, hsnd, hnames⟩ :=
      exists_parts_of_is ht (by decide) hts hpairs
    obtain ⟨b', hb', hblock⟩ := ihcs hbefore hpairsb
    obtain ⟨cs', rfl⟩ := hb'.exists_compound (by simp)
    obtain ⟨s', hs', htree⟩ := ih hafter hpairsa
    refine ⟨.compound (cs' ++ [s']), hsnd ▸ .next hb' ht hs', ?_⟩
    rw [hnames, Token.awaitsOperand_of_is ht]
    exact .next hblock htree
  | @block l r ts b hl _ hr ih =>
    obtain ⟨l', pairs, rfl, hpairs'⟩ := exists_pair_of_map_eq_cons hts
    obtain ⟨inner, last, rfl, rfl, hlast⟩ := List.map_eq_append_iff.1 hpairs'
    obtain ⟨r', last, rfl, hnil⟩ := exists_pair_of_map_eq_cons hlast
    obtain rfl := List.map_eq_nil_iff.1 hnil
    simp only [List.forall_mem_cons, List.forall_mem_append] at hpairs
    obtain ⟨hl', hinner, hr', -⟩ := hpairs
    obtain ⟨b', hb', htree⟩ := ih rfl hinner
    have hbegin : l'.isKeyword "BEGIN" = true := (hl'.isKeyword_eq (by decide)).trans hl
    have hend : r'.isKeyword "END" = true := (hr'.isKeyword_eq (by decide)).trans hr
    refine ⟨b', by simpa using Derives.block hbegin hb' hend, ?_⟩
    rw [operandNames_false_cons, operandNames_append (by simp [Token.isOperandName, hr]),
      Token.awaitsOperand_of_isKeyword hl]
    simpa [operandNames] using htree
  | @program t ts b _ ht ih =>
    obtain ⟨inner, last, hinner, hnil, hrespelt, -, hsnd, hnames⟩ :=
      exists_parts_of_is ht (by decide) hts hpairs
    obtain rfl := List.map_eq_nil_iff.1 hnil
    obtain ⟨b', hb', htree⟩ := ih hinner hrespelt
    refine ⟨b', hsnd ▸ .program hb' ht, ?_⟩
    rw [hnames]
    simpa [operandNames] using htree

/-! ## Parsing -/

/-- What parsing comes to for a text and for the same text with keywords spelt otherwise. `awaited`
says whether an operand is to come first. -/
inductive SameVerdict (awaited : Bool) (text text' : String) :
    Except ParseError Tree → Except ParseError Tree → Prop where
  /-- Both texts have trees, which are the same up to the spelling of operands. -/
  | tree {pairs : List (Token × Token)} {t t' : Tree}
      (htext : (Cursor.ofText text).Lexes (pairs.map Prod.fst))
      (htext' : (Cursor.ofText text').Lexes (pairs.map Prod.snd))
      (hpairs : ∀ q ∈ pairs, q.1.Respelt q.2)
      (htree : Tree.Respelt (operandNames awaited pairs) t t') :
      SameVerdict awaited text text' (.ok t) (.ok t')
  /-- Both texts have the same error. -/
  | error (err : ParseError) : SameVerdict awaited text text' (.error err) (.error err)
  /-- Something else was wanted at the same place of both texts, where the token may be spelt
  otherwise. -/
  | found {t t' : Token} (ht : t.Respelt t') (expected : String) {pos : Nat}
      (htext : ∃ n, (.token t, pos) ∈ (Cursor.ofText text).readings n)
      (htext' : ∃ n, (.token t', pos) ∈ (Cursor.ofText text').readings n) :
      SameVerdict awaited text text' (.error (.unexpected expected t.display pos))
        (.error (.unexpected expected t'.display pos))

/-- The error of refusing a token for the same reason under either spelling. -/
lemma SameVerdict.of_refusal {awaited : Bool} {text text' : String} {t t' : Token}
    (ht : t.Respelt t') (refusal : Refusal) {pos : Nat}
    (htext : ∃ n, (.token t, pos) ∈ (Cursor.ofText text).readings n)
    (htext' : ∃ n, (.token t', pos) ∈ (Cursor.ofText text').readings n) :
    SameVerdict awaited text text' (.error (refusal.error t pos))
      (.error (refusal.error t' pos)) := by
  cases refusal with
  | tooLarge digits => exact .error _
  | expected what => exact .found ht what.text htext htext'

/-- Runs of an automaton over two such texts. -/
lemma Automaton.DecidedByCore.sameVerdict {State : Type} {m : Automaton State}
    {core : State → State} (hm : m.DecidedByCore core) {awaited : Bool} {text text' : String}
    (h : RespellsKeywords text text')
    (haccepts : ∀ (pairs : List (Token × Token)) (t : Tree), (∀ q ∈ pairs, q.1.Respelt q.2) →
      m.Accepts (pairs.map Prod.fst) t →
        ∃ t', m.Accepts (pairs.map Prod.snd) t' ∧ Tree.Respelt (operandNames awaited pairs) t t') :
    SameVerdict awaited text text' (m.run (.ofText text)) (m.run (.ofText text')) := by
  rcases hrun : m.run (.ofText text) with err | t
  · obtain ⟨r, hstops⟩ := run_eq_error_iff.1 hrun
    rcases hstops.respelt hm h with hsame | ⟨t, t', refusal, rfl, ht, herr, hstops'⟩
    · rw [run_eq_error_iff.2 ⟨r, hsame⟩]
      exact .error err
    · rw [run_eq_error_iff.2 ⟨.token t', hstops'⟩, herr, position_error]
      have htext' := hstops'.reading
      rw [position_error] at htext'
      exact .of_refusal ht refusal hstops.reading htext'
  · obtain ⟨toks, htoks, hacc⟩ := run_eq_ok_iff.1 hrun
    rw [RespellsKeywords, Cursor.ofText, ← List.append_nil text.toList] at h
    obtain ⟨ds, rest', pairs, hds, rfl, hwording, hnil⟩ := htoks.recased h
    cases hnil
    rw [List.append_nil] at hds
    obtain ⟨t', hacc', htree⟩ := haccepts pairs t hwording.respelt hacc
    rw [run_eq_ok_iff.2 ⟨_, hds ▸ hwording.wording', hacc'⟩]
    exact .tree (Cursor.lexes_iff_wording.2 hwording.wording)
      (Cursor.lexes_iff_wording.2 (hds ▸ hwording.wording')) hwording.respelt htree

/-- **The spelling of keywords never matters.** If letters of keywords are put in the other case,
parsing comes to the same verdict, for programs and for expressions: the trees differ only in the
spelling of operands, and the errors only in the spelling of the token that is blamed. -/
theorem keyword_spelling_never_matters {text text' : String} (h : RespellsKeywords text text') :
    SameVerdict false text text' (parse text) (parse text') ∧
      SameVerdict true text text' (parseExpr text) (parseExpr text') := by
  constructor
  · refine Program.decidedByCore.sameVerdict h fun pairs t hpairs hacc => ?_
    obtain ⟨t', ht', htree⟩ := (Program.accepts_iff_derives.1 hacc).respelt rfl hpairs
    exact ⟨t', Program.accepts_iff_derives.2 ht', htree⟩
  · refine Expression.decidedByCore.sameVerdict h fun pairs t hpairs hacc => ?_
    obtain ⟨t', ht', htree⟩ := (Expression.accepts_iff_derives.1 hacc).respelt rfl hpairs
    exact ⟨t', Expression.accepts_iff_derives.2 ht', htree⟩

/-- Three keywords are spelt otherwise, and one of them is an operand. -/
theorem keyword_spelling_never_matters_begin_operand :
    RespellsKeywords "BEGIN x := Begin end." "BEgIN x := begiN eNd." ∧
      SameVerdict false "BEGIN x := Begin end." "BEgIN x := begiN eNd."
        (.ok (.compound [.assign "x" (.var "Begin")]))
        (.ok (.compound [.assign "x" (.var "begiN")])) := by
  set c := Cursor.ofText "BEGIN x := Begin end." with hc
  have hbegin : Recased c.InKeyword 0 "BEGIN".toList "BEgIN".toList :=
    .keyword 6 (.ofChars .identifier "BEGIN".toList) (by decide +kernel)
      ⟨"BEGIN", by decide, by decide⟩ (by decide)
  have hoperand : Recased c.InKeyword 11 "Begin".toList "begiN".toList :=
    .keyword 6 (.ofChars .identifier "Begin".toList) (by decide +kernel)
      ⟨"BEGIN", by decide, by decide⟩ (by decide)
  have hend : Recased c.InKeyword 17 "end".toList "eNd".toList :=
    .keyword 6 (.ofChars .identifier "end".toList) (by decide +kernel)
      ⟨"END", by decide, by decide⟩ (by decide)
  have hrespells : RespellsKeywords "BEGIN x := Begin end." "BEgIN x := begiN eNd." :=
    hbegin.append (.append (.refl _ _ " x := ".toList) (hoperand.append
      (.append (.refl _ _ " ".toList) (hend.append (.refl _ _ ".".toList)))))
  refine ⟨hrespells, ?_⟩
  have hparse : parse "BEGIN x := Begin end." =
      .ok (.compound [.assign "x" (.var "Begin")]) := by decide +kernel
  have hparse' : parse "BEgIN x := begiN eNd." =
      .ok (.compound [.assign "x" (.var "begiN")]) := by decide +kernel
  rw [← hparse, ← hparse']
  exact (keyword_spelling_never_matters hrespells).1

end BlockLang
