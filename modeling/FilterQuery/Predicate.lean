/-
**Predicates: text with placeholders, and the arguments they stand for.**

A predicate is written piece by piece.  A piece of text is set off from what is written already by
one space, except after an opening parenthesis, a `!` or a space and before a closing parenthesis,
a comma or a space.  An argument is written as a numbered placeholder and kept aside, so that no
value ever becomes part of the text.

Main definitions:

* `Predicate` — text and arguments;
* `Predicate.append`, `Predicate.appendValue` — writing a piece of text and an argument;
* `Piece`, `Predicate.write` — both kinds of pieces, and writing a list of them.

Main results:

* `Predicate.args_append`, `Predicate.args_appendValue`, `Predicate.args_write` — the arguments
  are the values written, in order.
-/

import FilterQuery.Number.Integer
import FilterQuery.Value

set_option relaxedAutoImplicit false
set_option autoImplicit false

namespace FilterQuery

/-- A text with placeholders, and the values of the placeholders in order. -/
structure Predicate where
  text : String
  args : List Value
deriving DecidableEq

namespace Predicate

/-- The predicate with nothing written. -/
def empty : Predicate :=
  ⟨"", []⟩

instance : EmptyCollection Predicate := ⟨empty⟩

/-- Whether a space belongs between a text that ends with `last?` and a piece that starts with
`first?`. -/
def needsSpace (last? first? : Option Char) : Bool :=
  match last?, first? with
  | some last, some first => decide (last ∉ ['(', '!', ' '] ∧ first ∉ [')', ',', ' '])
  | _, _ => false

/-- What is written before a piece to set it off from a text. -/
def gap (text piece : String) : String :=
  if needsSpace text.back? piece.front? then " " else ""

/-- The predicate with a further piece of text. -/
def append (p : Predicate) (piece : String) : Predicate :=
  { p with text := p.text ++ gap p.text piece ++ piece }

/-- The placeholder of the `n`-th argument. -/
def placeholder (n : Nat) : String :=
  String.ofList ('@' :: Number.showNat n)

/-- The predicate with a further argument. -/
def appendValue (p : Predicate) (v : Value) : Predicate :=
  { p.append (placeholder p.args.length) with args := p.args ++ [v] }

@[simp] theorem args_append (p : Predicate) (piece : String) : (p.append piece).args = p.args := rfl

@[simp] theorem args_appendValue (p : Predicate) (v : Value) :
    (p.appendValue v).args = p.args ++ [v] := rfl

/-- A space is written by the last character of the text and the first of the piece. -/
theorem gap_eq (text piece : String) :
    gap text piece = if needsSpace text.toList.getLast? piece.toList.head? then " " else "" := by
  rw [gap, String.back?_eq, String.front?_eq]

/-- An empty piece of text changes nothing. -/
@[simp] theorem append_empty (p : Predicate) : p.append "" = p := by
  cases p
  simp [append, gap_eq, needsSpace]

end Predicate

/-! ### Pieces -/

/-- A piece of text or an argument. -/
inductive Piece where
  | text (s : String)
  | argument (v : Value)
deriving DecidableEq

/-- The argument of a piece. -/
def Piece.argument? : Piece → Option Value
  | .text _ => none
  | .argument v => some v

@[simp] theorem Piece.argument?_text (s : String) : (text s).argument? = none := rfl

@[simp] theorem Piece.argument?_argument (v : Value) : (argument v).argument? = some v := rfl

namespace Predicate

/-- The predicate with a further piece. -/
def writePiece (p : Predicate) : Piece → Predicate
  | .text s => p.append s
  | .argument v => p.appendValue v

/-- The predicate with further pieces. -/
def write (p : Predicate) (pieces : List Piece) : Predicate :=
  pieces.foldl writePiece p

@[simp] theorem write_nil (p : Predicate) : p.write [] = p := rfl

@[simp] theorem write_cons (p : Predicate) (piece : Piece) (pieces : List Piece) :
    p.write (piece :: pieces) = (p.writePiece piece).write pieces := rfl

@[simp] theorem write_append (p : Predicate) (a b : List Piece) :
    p.write (a ++ b) = (p.write a).write b := by
  simp [write]

/-- Writing adds the arguments among the pieces, in order. -/
theorem args_write (p : Predicate) (pieces : List Piece) :
    (p.write pieces).args = p.args ++ pieces.filterMap Piece.argument? := by
  induction pieces generalizing p with
  | nil => simp
  | cons piece pieces ih =>
      cases piece with
      | text s => simp [ih, writePiece, List.filterMap_cons]
      | argument v => simp [ih, writePiece]

end Predicate

end FilterQuery
