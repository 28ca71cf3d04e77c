/-
**Nodes: the expressions that a filter is made of.**

A filter is a sequence of comparisons, calls, logical operators and parentheses.  Logical operators
and parentheses consist of one token; the other nodes take theirs one by one.

Main definitions:

* `Node` — the five kinds of nodes;
* `Node.canAdd`, `Node.add` — whether a token may be taken, and taking it;
* `Node.isComplete` — whether a node may end here;
* `Node.pieces`, `Node.render` — the output of one node.
-/

import FilterQuery.Node.Call

set_option relaxedAutoImplicit false
set_option autoImplicit false

namespace FilterQuery

/-- An expression of a filter, as far as it has been read. -/
inductive Node where
  | comparison (c : Comparison)
  | call (c : Call)
  /-- A logical operator, given by its kinds. -/
  | logical (kinds : KindSet)
  | openParen (t : Token)
  | closeParen (t : Token)

namespace Node

/-- Whether a node may take a token. -/
def canAdd (n : Node) (t : Token) : Bool :=
  match n with
  | .comparison c => c.canAdd t
  | .call c => c.canAdd t
  | _ => false

/-- The node after a token, or the refusal of the token. -/
def add (w : Whitelist) (n : Node) (t : Token) : Except Refusal Node :=
  match n with
  | .comparison c => (c.add w t).map .comparison
  | .call c => (c.add w t).map .call
  | _ => .error t.misplaced

/-- Whether a node may end here. -/
def isComplete : Node → Bool
  | .comparison c => c.isComplete
  | .call c => c.isComplete
  | _ => true

/-- The output of a node. -/
def pieces : Node → List Piece
  | .comparison c => c.pieces
  | .call c => c.pieces
  | .logical kinds => (kinds.logicalSymbol?.map Piece.text).toList
  | .openParen _ => [.text "("]
  | .closeParen _ => [.text ")"]

/-- The output of a node by itself. -/
def render (n : Node) : Predicate :=
  Predicate.empty.write n.pieces

end Node

end FilterQuery
