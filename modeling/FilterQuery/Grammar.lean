/-
**The grammar between the nodes of a filter.**

A filter is read token by token.  A pending node takes the tokens it can; the first token it
cannot take ends it and has to start another node.  Where that is allowed is decided by a cursor,
which knows whether an expression or a logical operator may come next, how many parentheses are
open, and whether the last word was a negation.

Main definitions:

* `Cursor`, `Cursor.start` — the grammar between nodes, and the node that a token starts;
* `Progress`, `Progress.accept` — the state of the reading, and the state after a token;
* `Progress.finish` — the checks at the end of the text;
* `Progress.run` — the nodes of a sequence of tokens.

Main results:

* `Progress.run_cons_of_error`, `Progress.run_cons_of_ok` — the two cases of reading a token.
-/

import FilterQuery.Node
import FilterQuery.Yield

set_option relaxedAutoImplicit false
set_option autoImplicit false

namespace FilterQuery

/-! ### Where nodes may start -/

/-- What may come next between two nodes. -/
structure Cursor where
  /-- An expression may start. -/
  canOpen : Bool
  /-- A logical operator may follow. -/
  canJoin : Bool
  /-- The number of open parentheses, those of lists and calls not counted. -/
  depth : Nat
  /-- The last word was a negation, which needs a parenthesis. -/
  afterNot : Bool
deriving DecidableEq

namespace Cursor

/-- The cursor before the first node. -/
def initial : Cursor :=
  ⟨true, false, 0, false⟩

/-- The cursor after an expression has started. -/
def enterOperand (c : Cursor) : Cursor :=
  { c with canOpen := false, canJoin := true }

/-- The node that a token starts, with the cursor after it, or the refusal of the token. -/
def start (w : Whitelist) (c : Cursor) (t : Token) : Except Refusal (Cursor × Node) :=
  -- A negation applies to a parenthesis and to nothing else.
  if c.afterNot ∧ t.kinds ≠ .single .openParen then .error t.misplaced
  else if t.kinds = .single .field ∧ c.canOpen then
    (Comparison.blank.add w t).map fun n => (c.enterOperand, .comparison n)
  else if t.isOf .stringFunction ∧ c.canOpen then
    (Call.blank.add w t).map fun n => (c.enterOperand, .call n)
  else if t.kinds = .single .openParen ∧ c.canOpen then
    .ok ({ c with depth := c.depth + 1, canJoin := false, afterNot := false }, .openParen t)
  -- Where an expression may start one is missing, so the parenthesis cannot close there.
  else if t.kinds = .single .closeParen ∧ !c.canOpen then
    if c.depth = 0 then .error t.unbalanced
    else .ok ({ c with depth := c.depth - 1, canJoin := true }, .closeParen t)
  else if t.isOf (.ofList [.conjunction, .disjunction]) ∧ c.canJoin then
    .ok ({ c with canJoin := false, canOpen := true }, .logical t.kinds)
  else if t.kinds = .single .negation ∧ c.canOpen then
    .ok ({ c with afterNot := true, canJoin := false }, .logical t.kinds)
  else .error t.misplaced

end Cursor

/-! ### Reading tokens -/

/-- The state of the reading between two tokens. -/
structure Progress where
  cursor : Cursor
  /-- The node that has been started and not yet handed out. -/
  pending? : Option Node
  /-- The last token. -/
  last? : Option Token

namespace Progress

/-- The state before the first token. -/
def initial : Progress :=
  ⟨.initial, none, none⟩

/-- The pending node if it can take a token. -/
def taker? (p : Progress) (t : Token) : Option Node :=
  p.pending?.filter fun n => n.canAdd t

/-- The pending node if it cannot take a token: the token ends it. -/
def ended? (p : Progress) (t : Token) : Option Node :=
  p.pending?.filter fun n => !n.canAdd t

/-- The state after a token, or the refusal of the token. -/
def accept (w : Whitelist) (p : Progress) (t : Token) : Except Refusal Progress :=
  match p.taker? t with
  | some n => (n.add w t).map fun n => ⟨p.cursor, some n, some t⟩
  | none => (p.cursor.start w t).map fun r => ⟨r.1, some r.2, some t⟩

/-- The refusal of an end at which parentheses are open or an expression is missing. -/
def balance (p : Progress) (last : Token) : Option Refusal :=
  if p.cursor.depth ≠ 0 then some last.unbalanced
  else if !p.cursor.canJoin then some last.incomplete
  else none

/-- The end of the text.  A pending node must be complete, and is handed out before the other
checks.  A text without a token is not checked. -/
def finish (p : Progress) : Yield Node :=
  match p.last?, p.pending? with
  | none, _ => .empty
  | some last, none => ⟨[], p.balance last⟩
  | some last, some n => if n.isComplete then ⟨[n], p.balance last⟩ else .ofRefusal last.incomplete

/-- The nodes of a sequence of tokens and the refusal that ends it.  A node is handed out when a
token ends it; `broken?` is the refusal at which the tokens themselves end. -/
def run (w : Whitelist) (p : Progress) (broken? : Option Refusal) : List Token → Yield Node
  -- A refusal of the text comes before the checks at its end, so a pending node is not handed out.
  | [] =>
      match broken? with
      | some r => .ofRefusal r
      | none => p.finish
  | t :: ts =>
      match p.accept w t with
      | .ok q => (run w q broken? ts).prepend (p.ended? t).toList
      | .error r => ⟨(p.ended? t).toList, some r⟩

/-- A refused token ends the reading. -/
theorem run_cons_of_error {w : Whitelist} {p : Progress} {t : Token} {r : Refusal}
    (h : p.accept w t = .error r) (broken? : Option Refusal) (ts : List Token) :
    p.run w broken? (t :: ts) = ⟨(p.ended? t).toList, some r⟩ := by
  simp [run, h]

/-- After an accepted token the reading goes on. -/
theorem run_cons_of_ok {w : Whitelist} {p q : Progress} {t : Token}
    (h : p.accept w t = .ok q) (broken? : Option Refusal) (ts : List Token) :
    p.run w broken? (t :: ts) = (q.run w broken? ts).prepend (p.ended? t).toList := by
  simp [run, h]

end Progress

end FilterQuery
