/-
**Traversals: the nodes of a filter one at a time.**

A traversal hands out the nodes of a filter on demand and reads no further than it has to.  A node
that is still handed out before a refusal comes first, and after the refusal, or the end, there is
nothing more.

Main definitions:

* `Traversal` — what has been read and what is still to come;
* `Traversal.ofFilter` — the traversal of a filter before the first node;
* `Traversal.next` — the next node or refusal, and the traversal after it;
* `Traversal.take` — the first items of a traversal.
-/

import FilterQuery.Filter

set_option relaxedAutoImplicit false
set_option autoImplicit false

namespace FilterQuery

/-- A traversal between two items. -/
structure Traversal where
  /-- The state of the reading. -/
  progress : Progress
  /-- The tokens that have not been read. -/
  rest : List Token
  /-- The refusal at which the tokens end. -/
  broken? : Option Refusal
  /-- Nodes that have been read and not handed out. -/
  ready : Yield Node
  /-- Whether the reading has ended. -/
  isOver : Bool

namespace Traversal

/-- The traversal of a filter before the first node. -/
def ofFilter (w : Whitelist) (filter : String) : Traversal :=
  let tokens := w.scan filter
  ⟨.initial, tokens.items, tokens.refusal?, .empty, false⟩

/-- A traversal that has nothing but the given items to hand out. -/
def ending (t : Traversal) (ready : Yield Node) : Traversal :=
  { t with rest := [], broken? := none, ready := ready, isOver := true }

/-- Reads tokens until something can be handed out or the reading has ended. -/
def advance (w : Whitelist) (t : Traversal) (p : Progress) : List Token → Traversal
  | [] =>
      match t.broken? with
      | some r => t.ending (.ofRefusal r)
      | none => t.ending p.finish
  | x :: xs =>
      match p.accept w x with
      | .error r => t.ending ⟨(p.ended? x).toList, some r⟩
      | .ok q =>
          match p.ended? x with
          -- The node is handed out before the next token is looked at.
          | some n => { t with progress := q, rest := xs, ready := ⟨[n], none⟩ }
          | none => t.advance w q xs

/-- The item that can be handed out without reading on, and the traversal after it. -/
def pop? (t : Traversal) : Option (Except Refusal Node × Traversal) :=
  match t.ready.items, t.ready.refusal? with
  | n :: ns, r => some (.ok n, { t with ready := ⟨ns, r⟩ })
  | [], some r => some (.error r, { t with ready := .empty })
  | [], none => none

/-- The next item, none at the end, and the traversal after it. -/
def next (w : Whitelist) (t : Traversal) : Option (Except Refusal Node) × Traversal :=
  let read := if t.pop?.isNone && !t.isOver then t.advance w t.progress t.rest else t
  match read.pop? with
  | some (item, after) => (some item, after)
  | none => (none, read)

/-- The first `n` items of a traversal, none where it has ended. -/
def take (w : Whitelist) (t : Traversal) : Nat → List (Option (Except Refusal Node))
  | 0 => []
  | n + 1 => (t.next w).1 :: (t.next w).2.take w n

end Traversal

end FilterQuery
