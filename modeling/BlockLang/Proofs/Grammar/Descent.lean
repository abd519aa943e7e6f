import BlockLang.Grammar.Parse
import Mathlib.Tactic.Common

set_option relaxedAutoImplicit false
set_option autoImplicit false

/-!
# Parsing by descent

A text may also be parsed by procedures, one for each production of the grammar, that call each
other as the productions do. One token is read ahead; a procedure looks at it to see what is to be
done, and takes it by reading the next one. A loop is a procedure that calls itself again for each
round.

All that is read is written down, and so is every call, with the calls that it is made within. Calls
go down to a given depth only, loops included.

## Main definitions

* `BlockLang.Descent.Procedure` — the procedures.
* `BlockLang.Descent.State` — the token read ahead, and what has been written down.
* `BlockLang.Descent.advance` — reads the next token, the only way in which anything is read.
* `BlockLang.Descent.body` — what a procedure does, in terms of the procedures that it calls.
* `BlockLang.Descent.run` — a call down to some depth.
* `BlockLang.Descent.descent` — parsing a text.
* `BlockLang.Descent.wp` — what a part of a descent is sure to come to.
-/

namespace BlockLang.Descent

/-- A token that has been read and not yet been taken, its place, and the cursor after it. -/
structure Lookahead where
  token : Token
  place : Nat
  cursor : Cursor
deriving DecidableEq, Repr

/-- The procedures, and the loops within them with what has come out so far. -/
inductive Procedure where
  | program
  | block
  | statements
  /-- The loop of `statements`, with the statements so far, the last one first. -/
  | moreStatements (before : List Tree)
  | statement
  | assignment
  | expression
  /-- The loop of `expression`, with the sum so far. -/
  | moreTerms (left : Tree)
  | term
  /-- The loop of `term`, with the product so far. -/
  | moreFactors (left : Tree)
  | factor
deriving DecidableEq, Repr

/-- A procedure, and the token that is read ahead when it is called. -/
structure Call where
  procedure : Procedure
  here : Lookahead
deriving DecidableEq, Repr

/-- What is written down of a descent. -/
structure Log where
  /-- The readings so far, each with the place where it found something. -/
  readings : List (Reading × Nat)
  /-- The calls so far, each with the calls that it is made within, from the inside out. -/
  calls : List (Call × List Call)
deriving DecidableEq, Repr

namespace Log

/-- Writes a reading down. -/
def note (log : Log) (reading : Reading) (cursor : Cursor) : Log :=
  { log with readings := log.readings ++ [(reading, cursor.start)] }

/-- Writes a call down. -/
def enter (log : Log) (call : Call) (around : List Call) : Log :=
  { log with calls := log.calls ++ [(call, around)] }

end Log

/-- The token read ahead, and what has been done so far. -/
structure State where
  here : Lookahead
  log : Log
deriving DecidableEq, Repr

/-- Why a descent gives no tree. -/
inductive Abort where
  | error (err : ParseError)
  /-- The calls went too deep. -/
  | tooDeep
deriving DecidableEq, Repr

/-- Descents: a result or an abort, and what has been done. -/
abbrev DescentM := ExceptT Abort (StateM State)

/-! ## The token read ahead -/

/-- The token read ahead. -/
def lookahead : DescentM Lookahead := do
  return (← get).here

/-- Takes the token read ahead by reading the next one. -/
def advance : DescentM Unit := do
  let s ← get
  let (reading, cursor) := s.here.cursor.next
  let log := s.log.note reading cursor
  match reading.result cursor.start with
  | .ok token => set (State.mk ⟨token, cursor.start, cursor⟩ log)
  | .error err => do
    set { s with log := log }
    throw (.error err)

/-- Refuses the token read ahead. -/
def refuse {α : Type} (refusal : Refusal) : DescentM α := do
  let l ← lookahead
  throw (.error (refusal.error l.token l.place))

/-- The terminal is what is wanted, if a certain keyword or symbol is. -/
def meets : Expectation → Terminal → Bool
  | .blockBegin, .blockBegin _ => true
  | .blockEnd, .blockEnd => true
  | .assign, .assign => true
  | .period, .period => true
  | .closeBracket, .closeBracket => true
  | _, _ => false

/-- Takes a keyword or symbol that has to come. -/
def eat (what : Expectation) : DescentM Unit := do
  let l ← lookahead
  if meets what l.token.terminal then advance else refuse (.expected what)

/-- Takes a name. -/
def eatName : DescentM String := do
  let l ← lookahead
  match l.token.terminal with
  | .name name | .blockBegin name => do
    advance
    return name
  | _ => refuse (.expected .variableName)

/-- Nothing but the end may come. -/
def endOfInput (t : Tree) : DescentM Tree := do
  let l ← lookahead
  if l.token.kind = .eof then return t else refuse (.expected .endOfInput)

/-! ## The procedures -/

section

variable (call : Procedure → DescentM Tree)

/-- The first part of a list, and then its loop. -/
def chain (part : Procedure) (loop : Tree → Procedure) : DescentM Tree := do
  let first ← call part
  call (loop first)

/-- A round of a loop over operations: if one of the given ones comes, its right operand follows,
and the loop goes on. -/
def moreOperands (allowed : List BinaryOp) (part : Procedure) (loop : Tree → Procedure)
    (left : Tree) : DescentM Tree := do
  let l ← lookahead
  match l.token.terminal with
  | .operator op =>
    if op ∈ allowed then do
      advance
      let right ← call part
      call (loop (.binary left op right))
    else
      return left
  | _ => return left

/-- What a procedure does. -/
def body : Procedure → DescentM Tree
  | .program => do
    let block ← call .block
    eat .period
    return block
  | .block => do
    eat .blockBegin
    let block ← call .statements
    eat .blockEnd
    return block
  | .statements => chain call .statement fun first => .moreStatements [first]
  | .moreStatements before => do
    let l ← lookahead
    match l.token.terminal with
    | .semicolon => do
      advance
      let next ← call .statement
      call (.moreStatements (next :: before))
    | _ => return .compound before.reverse
  | .statement => do
    let l ← lookahead
    match l.token.terminal with
    | .blockBegin _ => call .block
    | .name _ => call .assignment
    | _ => return .noop
  | .assignment => do
    let name ← eatName
    eat .assign
    let value ← call .expression
    return .assign name value
  | .expression => chain call .term .moreTerms
  | .moreTerms left => moreOperands call [.plus, .minus] .term .moreTerms left
  | .term => chain call .factor .moreFactors
  | .moreFactors left => moreOperands call [.multiply, .divide] .factor .moreFactors left
  | .factor => do
    let l ← lookahead
    match l.token.terminal with
    | .operator op =>
      match op.sign? with
      | some sign => do
        advance
        let operand ← call .factor
        return .unary sign operand
      | none => refuse (.expected .expression)
    | .integer digits =>
      match Decimal.literal? digits.toList with
      | some value => do
        advance
        return .num value
      | none => refuse (.tooLarge digits)
    | .openBracket => do
      advance
      let inner ← call .expression
      eat .closeBracket
      return inner
    | .name _ | .blockBegin _ | .blockEnd => do
      let name ← eatName
      return .var name
    | _ => refuse (.expected .expression)

end

/-- A call of a procedure within other calls, down to some depth. -/
def run : Nat → List Call → Procedure → DescentM Tree
  | 0, _, _ => throw .tooDeep
  | depth + 1, around, p => do
    let call : Call := ⟨p, ← lookahead⟩
    modify fun s => { s with log := s.log.enter call around }
    body (run depth (call :: around)) p

/-- Reads the first token, calls a procedure and wants the end after it. -/
def descend (depth : Nat) (p : Procedure) : DescentM Tree := do
  advance
  let t ← run depth [] p
  endOfInput t

/-- Before the first reading; nothing looks at the token. -/
def State.start (text : String) : State :=
  ⟨⟨.eof, 0, .ofText text⟩, ⟨[], []⟩⟩

/-- What a descent through a text comes to, and what it has done. -/
def descent (text : String) (depth : Nat) (p : Procedure) : Except Abort Tree × State :=
  (descend depth p).run.run (.start text)

/-! ## What a part of a descent is sure to come to -/

variable {α β : Type} {ok ok' : α → State → Prop} {fail fail' : Abort → State → Prop}
  {s : State}

/-- The part of a descent either gives a result or aborts, and what has been done then is as it
should be. -/
def wp (x : DescentM α) (ok : α → State → Prop) (fail : Abort → State → Prop) (s : State) : Prop :=
  match x.run.run s with
  | (.ok a, s') => ok a s'
  | (.error e, s') => fail e s'

lemma wp_mono {x : DescentM α} (h : wp x ok fail s) (hok : ∀ a s', ok a s' → ok' a s')
    (hfail : ∀ e s', fail e s' → fail' e s') : wp x ok' fail' s := by
  unfold wp at *
  generalize x.run.run s = outcome at *
  rcases outcome with ⟨e | a, s'⟩
  · exact hfail e s' h
  · exact hok a s' h

@[simp] lemma wp_pure (a : α) : wp (pure a) ok fail s ↔ ok a s :=
  Iff.rfl

@[simp] lemma wp_throw (e : Abort) : wp (throw e) ok fail s ↔ fail e s :=
  Iff.rfl

@[simp] lemma wp_bind (x : DescentM β) (f : β → DescentM α) :
    wp (x >>= f) ok fail s ↔ wp x (fun b => wp (f b) ok fail) fail s := by
  simp only [wp, ExceptT.run_bind, StateT.run_bind]
  rcases x.run.run s with ⟨_ | _, _⟩ <;> rfl

/-- One part of a descent after the other. -/
lemma wp_bind_of {x : DescentM β} {f : β → DescentM α} {mid : β → State → Prop}
    (hx : wp x mid fail s) (hf : ∀ b s', mid b s' → wp (f b) ok fail s') :
    wp (x >>= f) ok fail s :=
  (wp_bind x f).2 (wp_mono hx hf fun _ _ he => he)

@[simp] lemma wp_get {ok : State → State → Prop} : wp get ok fail s ↔ ok s s :=
  Iff.rfl

@[simp] lemma wp_lookahead {ok : Lookahead → State → Prop} :
    wp lookahead ok fail s ↔ ok s.here s :=
  Iff.rfl

/-- The next token is read, or the end of the text, or there is a character that begins no word. -/
lemma wp_advance {ok : Unit → State → Prop}
    (htoken : ∀ tok c, s.here.cursor.next = (.token tok, c) →
      ok () ⟨⟨tok, c.start, c⟩, s.log.note (.token tok) c⟩)
    (heof : ∀ c, s.here.cursor.next = (.eof, c) →
      ok () ⟨⟨.eof, c.start, c⟩, s.log.note .eof c⟩)
    (hinvalid : ∀ ch c, s.here.cursor.next = (.invalid ch, c) →
      fail (.error (.invalidCharacter ch c.start)) { s with log := s.log.note (.invalid ch) c }) :
    wp advance ok fail s := by
  simp only [advance, wp_bind, wp_get]
  rcases hnext : s.here.cursor.next with ⟨_ | _ | _, c⟩
  · exact htoken _ c hnext
  · exact heof c hnext
  · exact hinvalid _ c hnext

/-- A loop over operations goes on with the given ones and stops at anything else. -/
lemma wp_moreOperands {call : Procedure → DescentM Tree} {allowed : List BinaryOp}
    {part : Procedure} {loop : Tree → Procedure} {left : Tree} {ok : Tree → State → Prop}
    (hstop : (∀ op ∈ allowed, s.here.token.terminal ≠ .operator op) → ok left s)
    (hround : ∀ op ∈ allowed, s.here.token.terminal = .operator op →
      wp (do
        advance
        let right ← call part
        call (loop (.binary left op right))) ok fail s) :
    wp (moreOperands call allowed part loop left) ok fail s := by
  rw [moreOperands, wp_bind, wp_lookahead]
  split
  case h_1 op hop =>
    split
    case isTrue hmem => exact hround op hmem hop
    case isFalse hmem =>
      refine hstop fun op' hmem' hop' => hmem ?_
      rwa [Terminal.operator.inj (hop.symm.trans hop')]
  case h_2 hno => exact hstop fun op _ => hno op

/-- A call is written down, and then the procedure does what it does. -/
lemma wp_run_succ {depth : Nat} {around : List Call} {p : Procedure}
    {ok : Tree → State → Prop} :
    wp (run (depth + 1) around p) ok fail s ↔
      wp (body (run depth (⟨p, s.here⟩ :: around)) p) ok fail
        { s with log := s.log.enter ⟨p, s.here⟩ around } :=
  Iff.rfl

end BlockLang.Descent
