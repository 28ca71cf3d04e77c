/-
**Comparisons of a field with constants.**

A comparison is a boolean field alone, a field with an operator and one constant, or a field with
a parenthesised list of constants.  It takes its tokens one by one and is in one of a few states,
each of which holds what has been read.  A token that is refused leaves it as it was.

Main definitions:

* `ListStage`, `Comparison` — the states;
* `Comparison.field?`, `Comparison.operator?`, `Comparison.constants` — what has been read;
* `Comparison.canAdd`, `Comparison.add` — whether a token may be taken, and taking it;
* `Comparison.isComplete` — whether the comparison may end here;
* `Comparison.pieces` — the output.
-/

import FilterQuery.Predicate
import FilterQuery.Whitelist

set_option relaxedAutoImplicit false
set_option autoImplicit false

namespace FilterQuery

/-- The field that a token names.  The token must be of the kind of fields. -/
def Whitelist.fieldOf (w : Whitelist) (t : Token) : Except Refusal Field :=
  if t.is .field then w.resolve t.text else .error t.misplaced

/-- What a list of constants expects next. -/
inductive ListStage where
  /-- The parenthesis that opens the list. -/
  | opening
  /-- A constant. -/
  | item
  /-- A comma, or the parenthesis that closes the list. -/
  | separator
  /-- Nothing: the list is closed. -/
  | closed
deriving DecidableEq

/-- A comparison, as far as it has been read. -/
inductive Comparison where
  /-- Nothing has been read. -/
  | blank
  /-- A boolean field, which may stand alone. -/
  | flag (field : Field)
  /-- A field that needs an operator. -/
  | named (field : Field)
  /-- A field and an operator that needs one constant. -/
  | operated (field : Field) (operator : KindSet)
  /-- A field, an operator and its constant. -/
  | compared (field : Field) (operator : KindSet) (constant : Constant)
  /-- A field and the constants of a list. -/
  | listed (field : Field) (constants : List Constant) (stage : ListStage)

namespace Comparison

/-! ### What has been read -/

/-- The field. -/
def field? : Comparison → Option Field
  | .blank => none
  | .flag f => some f
  | .named f => some f
  | .operated f _ => some f
  | .compared f _ _ => some f
  | .listed f _ _ => some f

/-- The operator. -/
def operator? : Comparison → Option KindSet
  | .operated _ op => some op
  | .compared _ op _ => some op
  | .listed _ _ _ => some (.single .memberOf)
  | _ => none

/-- The constants, in order. -/
def constants : Comparison → List Constant
  | .compared _ _ c => [c]
  | .listed _ cs _ => cs
  | _ => []

/-- Whether the comparison may end here. -/
def isComplete : Comparison → Bool
  | .flag _ => true
  | .compared _ _ _ => true
  | .listed _ _ stage => stage == .closed
  | _ => false

/-! ### Taking tokens -/

/-- Whether the comparison may take a token.  A boolean field takes nothing but an operator. -/
def canAdd (c : Comparison) (t : Token) : Bool :=
  match c with
  | .flag _ => t.isOf .comparison
  | .compared _ _ _ => false
  | .listed _ _ stage => stage != .closed
  | _ => true

/-- The comparison of a field after its operator. -/
def takeOperator (f : Field) (t : Token) : Except Refusal Comparison :=
  if !t.isOf .comparison then .error t.misplaced
  else if !f.supports t.kinds then .error (.unsupportedOperator f.name t.text)
  else if t.kinds = .single .memberOf then .ok (.listed f [] .opening)
  else .ok (.operated f t.kinds)

/-- The comparison after a token, or the refusal of the token. -/
def add (w : Whitelist) (c : Comparison) (t : Token) : Except Refusal Comparison :=
  match c with
  | .blank => (w.fieldOf t).map fun f => if f.type.isBoolean then .flag f else .named f
  | .flag f => takeOperator f t
  | .named f => takeOperator f t
  | .operated f op => (f.readConstant (KindSet.equality.covers op) t).map fun c => .compared f op c
  | .compared _ _ _ => .error t.misplaced
  | .listed f cs .opening =>
      if t.is .openParen then .ok (.listed f cs .item) else .error t.misplaced
  | .listed f cs .item => (f.readConstant true t).map fun c => .listed f (cs ++ [c]) .separator
  -- A comma leads back to a constant, so a list neither is empty nor ends with a comma.
  | .listed f cs .separator =>
      if t.is .comma then .ok (.listed f cs .item)
      else if t.is .closeParen then .ok (.listed f cs .closed)
      else .error t.misplaced
  | .listed _ _ .closed => .error t.misplaced

end Comparison

/-! ### Output -/

/-- The text of a field in a comparison. -/
def Field.compared (f : Field) : String :=
  if f.ignoreCase then f.target ++ ".ToUpper()" else f.target

/-- The given pieces, guarded against null if the field asks for it. -/
def Field.guard (f : Field) (pieces : List Piece) : List Piece :=
  if f.checkNotNull then
    [.text "(", .text f.target, .text "!=", .text "null", .text "&&"] ++ pieces ++ [.text ")"]
  else pieces

/-- The output of a constant. -/
def Constant.piece : Constant → Piece
  | .null => .text "null"
  | .value v => .argument v

namespace Comparison

/-- The output of a list: the constants with commas between them. -/
def listPieces : List Constant → List Piece
  | [] => []
  | [c] => [c.piece]
  | c :: cs => c.piece :: .text "," :: listPieces cs

/-- The output of a field, an operator and a constant.  A comparison with null is neither guarded
nor in upper case. -/
def scalarPieces (f : Field) (op : KindSet) : Constant → List Piece
  | .null => [.text f.target, .text (op.operatorSymbol?.getD ""), .text "null"]
  | .value v => f.guard [.text f.compared, .text (op.operatorSymbol?.getD ""), .argument v]

/-- The output of a comparison, as far as it has been read. -/
def pieces : Comparison → List Piece
  | .blank => []
  | .flag f => [.text f.target]
  | .named f => [.text f.target]
  | .operated _ _ => []
  | .compared f op c => scalarPieces f op c
  | .listed f cs _ =>
      [.text f.compared, .text "in", .text "("] ++ listPieces cs ++ [.text ")"]

end Comparison

end FilterQuery
