import BlockLang.Proofs.Grammar.DescentResult
import BlockLang.Proofs.Token.Wording

set_option relaxedAutoImplicit false
set_option autoImplicit false

/-!
# Descents make progress

A descent ends because it gets on: before a procedure is called from within itself, and before a
loop goes into its next round, a token is taken. The measure is what is left of the text together
with the token read ahead. A procedure that calls others without taking a token calls only such as
come after it in a fixed order, so the depth of calls is linear in the length of the text.

Nothing is read after the end of the text or after a character that begins no word, as only words
are taken.

## Main definitions

* `BlockLang.Cursor.Advances` — a reading goes on in the text.
* `BlockLang.Descent.Call.weight` — the measure of a call.
* `BlockLang.Descent.Lookahead.Before` — a token has been taken between two calls.
* `BlockLang.Descent.Logged` — what a descent has written down is in order.
* `BlockLang.Descent.Within` — a part of a descent gets by with the calls that are allowed to it.

## Main results

* `BlockLang.Descent.within_body` — what each procedure does gets by with lighter calls.
* `BlockLang.Descent.lightens_run` — calls get by with a depth that exceeds their weight.
* `BlockLang.parsing_progresses` — every text is read and parsed to an end.
-/

namespace BlockLang

/-- A reading goes on in the text: the cursor does not go back, it does not leave the text, and it
goes on past a word. -/
structure Cursor.Advances (length : Nat) (c : Cursor) : Prop where
  pos_le : c.pos ≤ c.next.2.pos
  le_length : c.next.2.pos ≤ length
  pos_lt : ∀ tok, c.next.1 = .token tok → c.pos < c.next.2.pos

lemma Cursor.StandsIn.advances {cs : List Char} {c : Cursor} (h : c.StandsIn cs) :
    c.Advances cs.length where
  pos_le := c.le_next.2
  le_length := by
    have hlength := h.next.pos_add_length
    omega
  pos_lt tok htok := pos_lt_of_next (Prod.ext htok rfl)

namespace Descent

/-! ## The measure -/

/-- The procedure, or the loop without what has come out so far. -/
def Procedure.bare : Procedure → Procedure
  | moreStatements _ => moreStatements []
  | moreTerms _ => moreTerms .noop
  | moreFactors _ => moreFactors .noop
  | p => p

/-- The order of procedures: before it takes a token, a procedure calls only lower ones. -/
def Procedure.rank : Procedure → Nat
  | statements | expression => 2
  | program | statement | term => 1
  | block | moreStatements _ | assignment | moreTerms _ | moreFactors _ | factor => 0

lemma Procedure.rank_bare (p : Procedure) : p.bare.rank = p.rank := by
  cases p <;> rfl

/-- What is left of a text, the token read ahead included. -/
def Lookahead.left (l : Lookahead) : Nat :=
  if l.token.kind = .eof then 0 else l.cursor.rest.length + 1

lemma Lookahead.left_of_eof {l : Lookahead} (h : l.token.kind = .eof) : l.left = 0 :=
  if_pos h

lemma Lookahead.left_of_word {l : Lookahead} (h : l.token.kind ≠ .eof) :
    l.left = l.cursor.rest.length + 1 :=
  if_neg h

/-- The measure of a call: what is left counts more than the order of procedures. -/
def Call.weight (c : Call) : Nat :=
  3 * c.here.left + c.procedure.rank

/-- One token less outweighs any rank. -/
lemma Procedure.rank_lt_add (p : Procedure) (k : Nat) : p.rank < k + 3 := by
  have hrank : p.rank < 3 := by cases p <;> simp [rank]
  omega

/-- The second lookahead has its cursor after that of the first one, or it is the end of the text,
and the first one is a token that has been taken. -/
def Lookahead.Before (l l' : Lookahead) : Prop :=
  l.cursor.pos < l'.cursor.pos ∨ l.token.kind ≠ .eof ∧ l'.token.kind = .eof

/-- The lookahead is what one of the readings of the text finds. -/
def Lookahead.IsOf (text : String) (l : Lookahead) : Prop :=
  ∃ n reading, ((Cursor.ofText text).skip n).next = (reading, l.cursor) ∧
    l.place = l.cursor.start ∧ reading.result l.place = .ok l.token

variable {text : String}

lemma Lookahead.IsOf.standsIn {l : Lookahead} (h : l.IsOf text) :
    l.cursor.StandsIn text.toList := by
  obtain ⟨n, reading, hnext, -⟩ := h
  have hstands := (Cursor.standsIn_skip text n).next
  rwa [hnext] at hstands

/-- If less is left, a token has been taken. -/
lemma Lookahead.before_of_left_lt {l l' : Lookahead} (h : l.IsOf text) (h' : l'.IsOf text)
    (hlt : l'.left < l.left) : l.Before l' := by
  have hlength := h.standsIn.pos_add_length
  have hlength' := h'.standsIn.pos_add_length
  by_cases hword : l.token.kind = .eof
  · rw [left_of_eof hword] at hlt
    exact absurd hlt (Nat.not_lt_zero _)
  · by_cases heof : l'.token.kind = .eof
    · exact Or.inr ⟨hword, heof⟩
    · rw [left_of_word hword, left_of_word heof] at hlt
      exact Or.inl (by omega)

/-- A lighter call of the same procedure has less left. -/
lemma Call.left_lt_of_weight_lt {c c' : Call} (hbare : c'.procedure.bare = c.procedure.bare)
    (hlt : c'.weight < c.weight) : c'.here.left < c.here.left := by
  have hrank : c'.procedure.rank = c.procedure.rank := by
    rw [← c'.procedure.rank_bare, hbare, c.procedure.rank_bare]
  unfold weight at hlt
  omega

/-! ## What is written down -/

/-- What a descent has written down is in order. -/
structure Logged (text : String) (log : Log) : Prop where
  /-- The readings are the first ones of the text, -/
  readings_eq : log.readings = (Cursor.ofText text).readings log.readings.length
  /-- and each but the last one finds a word. -/
  words : ∀ x ∈ log.readings.dropLast, ∃ tok, x.1 = .token tok
  /-- Procedures are called when a reading of the text is read ahead, -/
  reached : ∀ x ∈ log.calls, x.1.here.IsOf text
  /-- and a token is taken before a procedure is called from within itself. -/
  progress : ∀ x ∈ log.calls, ∀ outer ∈ x.2, x.1.procedure.bare = outer.procedure.bare →
    outer.here.Before x.1.here

/-- The descent may read on. -/
structure Ready (text : String) (s : State) : Prop where
  logged : Logged text s.log
  cursor_eq : s.here.cursor = (Cursor.ofText text).skip s.log.readings.length
  all_words : ∀ x ∈ s.log.readings, ∃ tok, x.1 = .token tok

/-- The descent goes on, and may read on unless the end has been read. -/
structure Sound (text : String) (s : State) : Prop where
  logged : Logged text s.log
  here_isOf : s.here.IsOf text
  ready : s.here.token.kind ≠ .eof → Ready text s

/-- The descent stops, but not because calls went too deep. -/
def Stopped (text : String) (e : Abort) (s : State) : Prop :=
  e ≠ .tooDeep ∧ Logged text s.log

lemma ready_start (text : String) : Ready text (.start text) where
  logged := ⟨rfl, by simp [State.start], by simp [State.start], by simp [State.start]⟩
  cursor_eq := rfl
  all_words := by simp [State.start]

section

variable {s : State} {reading : Reading} {c : Cursor}

/-- One more reading is written down. -/
lemma Ready.note (h : Ready text s) (hnext : s.here.cursor.next = (reading, c)) :
    Logged text (s.log.note reading c) where
  readings_eq := by
    rw [Log.note, List.length_append, List.length_singleton, Cursor.readings_succ, ← h.cursor_eq,
      hnext, ← h.logged.readings_eq]
  words := by simpa [Log.note] using h.all_words
  reached := h.logged.reached
  progress := h.logged.progress

/-- A word or the end of the text is read ahead. -/
lemma Ready.sound (h : Ready text s) (hnext : s.here.cursor.next = (reading, c)) {token : Token}
    (htoken : reading.result c.start = .ok token)
    (hword : token.kind ≠ .eof → reading = .token token) :
    Sound text ⟨⟨token, c.start, c⟩, s.log.note reading c⟩ where
  logged := h.note hnext
  here_isOf := ⟨s.log.readings.length, reading, by rw [← h.cursor_eq, hnext], rfl, htoken⟩
  ready hkind := {
    logged := h.note hnext
    cursor_eq := by
      simp only [Log.note, List.length_append, List.length_singleton]
      rw [Cursor.skip_succ, ← h.cursor_eq, hnext]
    all_words := by
      rw [Log.note, List.forall_mem_append, List.forall_mem_singleton]
      exact ⟨h.all_words, token, hword hkind⟩ }

/-- Reading on is sound, and less is left than with any token read ahead before. -/
lemma wp_advance_of_ready (h : Ready text s) :
    wp advance (fun _ s' => Sound text s' ∧ s'.here.left ≤ s.here.cursor.rest.length)
      (Stopped text) s := by
  refine wp_advance (fun tok c hnext => ?_) (fun c hnext => ?_) fun ch c hnext => ?_
  · refine ⟨h.sound hnext rfl fun _ => rfl, ?_⟩
    rw [Lookahead.left_of_word (Cursor.kind_ne_eof_of_next hnext)]
    exact Cursor.length_rest_lt_of_next hnext
  · refine ⟨h.sound hnext rfl fun hkind => absurd rfl hkind, ?_⟩
    rw [Lookahead.left_of_eof rfl]
    exact Nat.zero_le _
  · exact ⟨by simp, h.note hnext⟩

/-- Taking a token leaves less of the text. -/
lemma Sound.wp_advance (h : Sound text s) (hkind : s.here.token.kind ≠ .eof) :
    wp advance (fun _ s' => Sound text s' ∧ s'.here.left < s.here.left) (Stopped text) s := by
  refine wp_mono (wp_advance_of_ready (h.ready hkind)) (fun _ s' h' => ⟨h'.1, ?_⟩) fun _ _ he => he
  rw [Lookahead.left_of_word hkind]
  exact Nat.lt_succ_of_le h'.2

end

/-! ## Calls that get by -/

section

variable {α β : Type} {W k : Nat} {l : Lookahead}

/-- Calls of less weight go on soundly, and no more is left after them than before. -/
def Lightens (text : String) (W : Nat) (call : Procedure → DescentM Tree) : Prop :=
  ∀ p s, Sound text s → (⟨p, s.here⟩ : Call).weight < W →
    wp (call p) (fun _ s' => Sound text s' ∧ s'.here.left ≤ s.here.left) (Stopped text) s

/-- With the lookahead `l`, a part of a descent goes on soundly if its calls may weigh anything less
than `W`, provided that procedures below the rank `k` may be called right away. -/
def Within (text : String) (W k : Nat) (l : Lookahead) (x : DescentM α) : Prop :=
  ∀ s, s.here = l → Sound text s → 3 * l.left + k ≤ W →
    wp x (fun _ s' => Sound text s' ∧ s'.here.left ≤ l.left) (Stopped text) s

lemma within_pure (a : α) : Within text W k l (pure a) := by
  rintro s rfl hs -
  exact ⟨hs, Nat.le_refl _⟩

lemma within_refuse (refusal : Refusal) : Within text W k l (refuse (α := α) refusal) := by
  rintro s rfl hs -
  exact ⟨by simp, hs.logged⟩

lemma within_refuse_bind (refusal : Refusal) {f : β → DescentM α} :
    Within text W k l (refuse refusal >>= f) := by
  rintro s rfl hs -
  exact ⟨by simp, hs.logged⟩

/-- One part after the other: there is no more left for the second one. -/
lemma within_bind {x : DescentM β} {f : β → DescentM α} (hx : Within text W k l x)
    (hf : ∀ b l', Within text W k l' (f b)) : Within text W k l (x >>= f) := by
  intro s hl hs hW
  refine wp_bind_of (hx s hl hs hW) fun b s' h' => ?_
  refine wp_mono (hf b s'.here s' rfl h'.1 (by omega)) (fun _ s'' h'' => ?_) fun _ _ he => he
  exact ⟨h''.1, h''.2.trans h'.2⟩

lemma within_lookahead {f : Lookahead → DescentM α} (hf : Within text W k l (f l)) :
    Within text W k l (lookahead >>= f) := by
  rintro s rfl hs hW
  exact hf s rfl hs hW

/-- After a token has been taken any procedure may be called. -/
lemma within_advance {f : Unit → DescentM α} (hl : l.token.kind ≠ .eof)
    (hf : ∀ l', Within text W (k + 3) l' (f ())) : Within text W k l (advance >>= f) := by
  rintro s rfl hs hW
  refine wp_bind_of (hs.wp_advance hl) fun _ s' h' => ?_
  refine wp_mono (hf s'.here s' rfl h'.1 (by omega)) (fun _ s'' h'' => ?_) fun _ _ he => he
  exact ⟨h''.1, h''.2.trans h'.2.le⟩

lemma within_call {call : Procedure → DescentM Tree} (hcall : Lightens text W call) {p : Procedure}
    (hp : p.rank < k) : Within text W k l (call p) := by
  rintro s rfl hs hW
  refine hcall p s hs ?_
  show 3 * s.here.left + p.rank < W
  omega

lemma within_eat {what : Expectation} {f : Unit → DescentM α}
    (hf : ∀ l', Within text W (k + 3) l' (f ())) : Within text W k l (eat what >>= f) := by
  rw [eat, bind_assoc]
  refine within_lookahead ?_
  split
  case isTrue hmeets => exact within_advance (kind_ne_eof_of_terminal (ne_other_of_meets hmeets)) hf
  case isFalse => exact within_refuse_bind _

lemma within_eatName {f : String → DescentM α}
    (hf : ∀ name l', Within text W (k + 3) l' (f name)) :
    Within text W k l (eatName >>= f) := by
  rw [eatName, bind_assoc]
  refine within_lookahead ?_
  split
  case h_1 name hx =>
    rw [bind_assoc]
    exact within_advance (kind_ne_eof_of_terminal (by simp [hx])) fun l' => hf name l'
  case h_2 name hx =>
    rw [bind_assoc]
    exact within_advance (kind_ne_eof_of_terminal (by simp [hx])) fun l' => hf name l'
  case h_3 => exact within_refuse_bind _

section

variable {call : Procedure → DescentM Tree} (hcall : Lightens text W call) {part : Procedure}
  {loop : Tree → Procedure}

include hcall

lemma within_chain (hpart : part.rank < k) (hloop : ∀ t, (loop t).rank < k) :
    Within text W k l (chain call part loop) :=
  within_bind (within_call hcall hpart) fun t _ => within_call hcall (hloop t)

lemma within_moreOperands (allowed : List BinaryOp) (left : Tree) :
    Within text W k l (moreOperands call allowed part loop left) := by
  refine within_lookahead ?_
  split
  case h_1 op hop =>
    split
    case isTrue =>
      refine within_advance (kind_ne_eof_of_terminal (by simp [hop])) fun l' => ?_
      exact within_bind (within_call hcall (part.rank_lt_add k)) fun _ _ =>
        within_call hcall (Procedure.rank_lt_add _ k)
    case isFalse => exact within_pure left
  case h_2 => exact within_pure left

/-- **Procedures get by with lighter calls.** What each procedure does goes on soundly, if its calls
may weigh less than the call of the procedure itself. -/
theorem within_body (p : Procedure) : Within text W p.rank l (body call p) := by
  cases p with
  | program =>
    exact within_bind (within_call hcall (by decide)) fun _ _ => within_eat fun _ => within_pure _
  | block =>
    refine within_eat fun _ => ?_
    exact within_bind (within_call hcall (by decide)) fun _ _ => within_eat fun _ => within_pure _
  | statements => exact within_chain hcall (by decide) fun _ => by simp [Procedure.rank]
  | moreStatements before =>
    refine within_lookahead ?_
    split
    case h_1 hx =>
      refine within_advance (kind_ne_eof_of_terminal (by simp [hx])) fun _ => ?_
      exact within_bind (within_call hcall (Procedure.rank_lt_add _ 0)) fun _ _ =>
        within_call hcall (Procedure.rank_lt_add _ 0)
    case h_2 => exact within_pure _
  | statement =>
    refine within_lookahead ?_
    split
    case h_1 => exact within_call hcall (by decide)
    case h_2 => exact within_call hcall (by decide)
    case h_3 => exact within_pure _
  | assignment =>
    refine within_eatName fun _ _ => within_eat fun _ => ?_
    exact within_bind (within_call hcall (by decide)) fun _ _ => within_pure _
  | expression => exact within_chain hcall (by decide) fun _ => by simp [Procedure.rank]
  | moreTerms left => exact within_moreOperands hcall _ left
  | term => exact within_chain hcall (by decide) fun _ => by simp [Procedure.rank]
  | moreFactors left => exact within_moreOperands hcall _ left
  | factor =>
    refine within_lookahead ?_
    split
    case h_1 op hx =>
      split
      case h_1 sign hsign =>
        refine within_advance (kind_ne_eof_of_terminal (by simp [hx])) fun _ => ?_
        exact within_bind (within_call hcall (by decide)) fun _ _ => within_pure _
      case h_2 => exact within_refuse _
    case h_2 digits hx =>
      split
      case h_1 value hvalue =>
        exact within_advance (kind_ne_eof_of_terminal (by simp [hx])) fun _ => within_pure _
      case h_2 => exact within_refuse _
    case h_3 hx =>
      refine within_advance (kind_ne_eof_of_terminal (by simp [hx])) fun _ => ?_
      exact within_bind (within_call hcall (by decide)) fun _ _ => within_eat fun _ => within_pure _
    case h_4 | h_5 | h_6 => exact within_eatName fun _ _ => within_pure _
    case h_7 => exact within_refuse _

end

end

/-- A call that weighs less than the calls around it is written down in order. -/
lemma Sound.enter {s : State} (h : Sound text s) {p : Procedure} {around : List Call}
    (haround : ∀ outer ∈ around, outer.here.IsOf text ∧
      (⟨p, s.here⟩ : Call).weight < outer.weight) :
    Sound text { s with log := s.log.enter ⟨p, s.here⟩ around } := by
  have hlogged : Logged text (s.log.enter ⟨p, s.here⟩ around) := by
    refine ⟨h.logged.readings_eq, h.logged.words, ?_, ?_⟩
    · rw [Log.enter, List.forall_mem_append, List.forall_mem_singleton]
      exact ⟨h.logged.reached, h.here_isOf⟩
    · rw [Log.enter, List.forall_mem_append, List.forall_mem_singleton]
      refine ⟨h.logged.progress, fun outer houter hbare => ?_⟩
      obtain ⟨hisOf, hlt⟩ := haround outer houter
      exact Lookahead.before_of_left_lt hisOf h.here_isOf (Call.left_lt_of_weight_lt hbare hlt)
  exact ⟨hlogged, h.here_isOf, fun hkind =>
    ⟨hlogged, (h.ready hkind).cursor_eq, (h.ready hkind).all_words⟩⟩

/-- **Calls get by with a depth that exceeds their weight.**

**Proof sketch.** Induction on the depth. A call weighs more than the calls that it makes, so the
depth that is left is still enough for them; and it is one of the calls around them, all of which
weigh more than they do. -/
theorem lightens_run (depth : Nat) {W : Nat} {around : List Call} (hW : W ≤ depth)
    (haround : ∀ outer ∈ around, outer.here.IsOf text ∧ W ≤ outer.weight) :
    Lightens text W (run depth around) := by
  induction depth generalizing W around with
  | zero =>
    intro p s _ hlt
    omega
  | succ depth ih =>
    intro p s hs hlt
    rw [wp_run_succ]
    have hbody : Lightens text (⟨p, s.here⟩ : Call).weight (run depth (⟨p, s.here⟩ :: around)) := by
      refine ih (by omega) (List.forall_mem_cons.2 ⟨⟨hs.here_isOf, Nat.le_refl _⟩, ?_⟩)
      exact fun outer houter => ⟨(haround outer houter).1, hlt.le.trans (haround outer houter).2⟩
    have hentered := hs.enter (p := p) fun outer houter =>
      ⟨(haround outer houter).1, hlt.trans_le (haround outer houter).2⟩
    exact within_body hbody p _ rfl hentered (Nat.le_refl _)

/-- A descent whose depth exceeds three times the length of the text does not go too deep, and what
it writes down is in order. -/
theorem wp_descend_logged (text : String) {depth : Nat} (hdepth : 3 * text.length + 3 ≤ depth)
    (p : Procedure) :
    wp (descend depth p) (fun _ s => Logged text s.log) (Stopped text) (.start text) := by
  refine wp_bind_of (wp_advance_of_ready (ready_start text)) fun _ s h => ?_
  have hleft : s.here.left ≤ text.length := h.2.trans_eq (String.length_toList ..)
  have hlt : (⟨p, s.here⟩ : Call).weight < depth := by
    have hrank := p.rank_lt_add 0
    show 3 * s.here.left + p.rank < depth
    omega
  refine wp_bind_of (lightens_run depth (Nat.le_refl _) (by simp) p s h.1 hlt) fun t s' h' => ?_
  simp only [endOfInput, wp_bind, wp_lookahead]
  split
  case isTrue => exact h'.1.logged
  case isFalse => exact ⟨by simp, h'.1.logged⟩

/-- A descent goes as it should: it comes to the given result, and what it writes down is in
order. -/
structure Orderly (text : String) (result : Except ParseError Tree)
    (outcome : Except Abort Tree × State) : Prop where
  returns : outcome.1 = result.mapError .error
  logged : Logged text outcome.2.log

/-- Descents that come to a result, and that do not go too deep. -/
lemma orderly_of_wp {depth : Nat} {p : Procedure} {R : Except ParseError Tree}
    (hresult : wp (descend depth p) (fun t _ => R = .ok t) (Fails R) (.start text))
    (hlogged : wp (descend depth p) (fun _ s => Logged text s.log) (Stopped text) (.start text)) :
    Orderly text R (descent text depth p) := by
  unfold wp at hresult hlogged
  rw [descent]
  generalize (descend depth p).run.run (.start text) = outcome at *
  rcases outcome with ⟨(err | _) | t, s⟩
  · exact ⟨by rw [show R = .error err from hresult]; rfl, hlogged.2⟩
  · exact absurd rfl hlogged.1
  · exact ⟨by rw [show R = .ok t from hresult]; rfl, hlogged⟩

end Descent

/-- **Parsing makes progress.** Wherever readings have led in a text, the next one does not take the
cursor back or out of the text, and takes it on past a word. Parsing by descent comes to the tree or
the error of parsing, for programs and for expressions: calls stay within a depth that is linear in
the length of the text, a token is taken before a procedure is called from within itself or a loop
goes into its next round, and nothing is read after the end of the text or an error. -/
theorem parsing_progresses (text : String) :
    (∀ n, ((Cursor.ofText text).skip n).Advances text.length) ∧
    ∀ extra,
      Descent.Orderly text (parse text)
        (Descent.descent text (3 * text.length + 3 + extra) .program) ∧
      Descent.Orderly text (parseExpr text)
        (Descent.descent text (3 * text.length + 3 + extra) .expression) := by
  refine ⟨fun n => ?_, fun extra => ⟨?_, ?_⟩⟩
  · have hadvances := (Cursor.standsIn_skip text n).advances
    rwa [String.length_toList] at hadvances
  · exact Descent.orderly_of_wp (Descent.wp_descend_program text _)
      (Descent.wp_descend_logged text (by omega) _)
  · exact Descent.orderly_of_wp (Descent.wp_descend_expression text _)
      (Descent.wp_descend_logged text (by omega) _)

/-- The calls of a descent, with their cursors: a factor is called within a factor after the sign,
an expression within an expression after the bracket, and the loops stop at the end. -/
example : ((Descent.descent "-(x" 12 .expression).2.log.calls.map fun x =>
    (x.1.procedure, x.1.here.cursor.pos)) =
      [(.expression, 1), (.term, 1), (.factor, 1), (.factor, 2), (.expression, 3), (.term, 3),
        (.factor, 3), (.moreFactors (.var "x"), 3), (.moreTerms (.var "x"), 3)] := by
  decide +kernel

end BlockLang
