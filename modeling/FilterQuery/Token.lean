/-
**Tokens: pieces of a source text with their kinds and positions.**

A token carries its own text, so that whoever judges it needs no access to the source.  Positions
are byte offsets.

Main definitions:

* `Token` — kinds, start and text;
* `Token.stop` — the position after the last byte;
* `Token.cut` — the token between two positions of a source text;
* `Token.isOf` — whether a token is of one of the given kinds;
* `Token.misplaced` — the refusal of a token where the grammar does not allow it.
-/

import FilterQuery.Kind
import FilterQuery.Refusal
import FilterQuery.Text.Bytes
import FilterQuery.Text.Quoted

set_option relaxedAutoImplicit false
set_option autoImplicit false

namespace FilterQuery

/-- A piece of a source text.  A token that is read off a text has exactly one kind. -/
structure Token where
  kinds : KindSet
  start : Nat
  text : String
deriving DecidableEq

namespace Token

/-- The position after the last byte of a token. -/
def stop (t : Token) : Nat :=
  t.start + t.text.utf8ByteSize

/-- The token between two byte positions of a source text. -/
def cut (source : String) (kinds : KindSet) (start stop : Nat) : Token :=
  ⟨kinds, start, Text.cut source start stop⟩

/-- Whether a token is of one of the given kinds. -/
def isOf (t : Token) (kinds : KindSet) : Bool :=
  t.kinds.meets kinds

/-- Whether a token is of the given kind. -/
def is (t : Token) (k : Kind) : Bool :=
  t.kinds.has k

/-- The text behind a literal token. -/
def literalValue (t : Token) : String :=
  Text.unquote t.text

/-- The refusal of a token where the grammar does not allow it. -/
def misplaced (t : Token) : Refusal :=
  .misplaced t.text t.start

/-- The refusal of a token that leaves a parenthesis without its partner. -/
def unbalanced (t : Token) : Refusal :=
  .unbalanced t.text t.start

/-- The refusal of a text that ends with the token and inside an expression. -/
def incomplete (t : Token) : Refusal :=
  .incomplete t.text t.start

end Token

end FilterQuery
