/-
**Calls of string functions.**

A call is the name of a function and, in parentheses, a field and a constant.  Like a comparison
it takes its tokens one by one, and a token that is refused leaves it as it was.

Main definitions:

* `Call` — the states;
* `Call.function?`, `Call.field?`, `Call.value?` — what has been read;
* `Call.canAdd`, `Call.add` — whether a token may be taken, and taking it;
* `Call.isComplete` — whether the call is closed;
* `Call.pieces` — the output.
-/

import FilterQuery.Node.Comparison

set_option relaxedAutoImplicit false
set_option autoImplicit false

namespace FilterQuery

/-- A call of a string function, as far as it has been read. -/
inductive Call where
  /-- Nothing has been read. -/
  | blank
  /-- The function has been read. -/
  | named (function : KindSet)
  /-- The parenthesis is open. -/
  | opened (function : KindSet)
  /-- The field has been read. -/
  | fielded (function : KindSet) (field : Field)
  /-- The comma has been read. -/
  | separated (function : KindSet) (field : Field)
  /-- The value has been read. -/
  | valued (function : KindSet) (field : Field) (value : Value)
  /-- The parenthesis is closed. -/
  | closed (function : KindSet) (field : Field) (value : Value)

namespace Call

/-! ### What has been read -/

/-- The function. -/
def function? : Call → Option KindSet
  | .blank => none
  | .named fn => some fn
  | .opened fn => some fn
  | .fielded fn _ => some fn
  | .separated fn _ => some fn
  | .valued fn _ _ => some fn
  | .closed fn _ _ => some fn

/-- The field. -/
def field? : Call → Option Field
  | .fielded _ f => some f
  | .separated _ f => some f
  | .valued _ f _ => some f
  | .closed _ f _ => some f
  | _ => none

/-- The value. -/
def value? : Call → Option Value
  | .valued _ _ v => some v
  | .closed _ _ v => some v
  | _ => none

/-- Whether the call is closed. -/
def isComplete : Call → Bool
  | .closed _ _ _ => true
  | _ => false

/-! ### Taking tokens -/

/-- Whether the call may take a token. -/
def canAdd (c : Call) (_ : Token) : Bool :=
  !c.isComplete

/-- The kinds of which the next token must be. -/
def expected : Call → KindSet
  | .blank => .stringFunction
  | .named _ => .single .openParen
  | .opened _ => .single .field
  | .fielded _ _ => .single .comma
  | .separated _ _ => .constant
  | .valued _ _ _ => .single .closeParen
  | .closed _ _ _ => ∅

/-- The call of a function after its field. -/
def takeField (w : Whitelist) (fn : KindSet) (t : Token) : Except Refusal Call :=
  (w.fieldOf t).bind fun f =>
    if f.supports fn then .ok (.fielded fn f)
    else .error (.unsupportedOperator f.name (fn.functionName?.getD ""))

/-- The call of a function on a field after its value, which must not be null. -/
def takeValue (fn : KindSet) (f : Field) (t : Token) : Except Refusal Call :=
  (f.readConstant false t).bind fun c =>
    match c with
    | .value v => .ok (.valued fn f v)
    | .null => .error (.invalidValue f.name "null")

/-- The call after a token, or the refusal of the token. -/
def add (w : Whitelist) (c : Call) (t : Token) : Except Refusal Call :=
  if !t.isOf c.expected then .error t.misplaced
  else
    match c with
    | .blank => .ok (.named t.kinds)
    | .named fn => .ok (.opened fn)
    | .opened fn => takeField w fn t
    | .fielded fn f => .ok (.separated fn f)
    | .separated fn f => takeValue fn f t
    | .valued fn f v => .ok (.closed fn f v)
    | .closed fn f v => .ok (.closed fn f v)

/-! ### Output -/

/-- The output of a function applied to a field and a value. -/
def callPieces (name : String) (f : Field) (v : Value) : List Piece :=
  f.guard [.text (f.compared ++ "." ++ name ++ "("), .argument v, .text ")"]

/-- The output of a call: nothing before its value has been read. -/
def pieces (c : Call) : List Piece :=
  match c.field?, c.function?.bind KindSet.functionName?, c.value? with
  | some f, some name, some v => callPieces name f v
  | _, _, _ => []

end Call

end FilterQuery
