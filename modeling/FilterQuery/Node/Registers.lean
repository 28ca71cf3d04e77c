/-
**Nodes that are kept in registers.**

`Comparison` and `Call` hold in each state what has been read by then and nothing else.  The same
nodes can be kept in place: one register says what is expected next, the others hold what has been
read, and nothing but the order of the writes keeps them in step.  An update checks the token and
writes register by register.  It can fail at every check, and whatever it has written by then stays
written, so that a node that takes a token in part would be seen in its registers.

Main definitions:

* `Comparison.Registers`, `Call.Registers`, `Node.Registers` — the registers of the nodes;
* `Comparison.Registers.update`, `Call.Registers.update`, `Node.Registers.update` — taking a token;
* `Node.Registers.canAdd`, `Node.Registers.isComplete`, `Node.Registers.pieces` — what a node in
  registers answers, which has to provide for registers that are out of step;
* `Comparison.registers`, `Call.registers`, `Node.registers` — the registers that hold a node.
-/

import FilterQuery.Node

set_option relaxedAutoImplicit false
set_option autoImplicit false

namespace FilterQuery

/-! ### Comparisons -/

namespace Comparison

/-- What a comparison expects next. -/
inductive Stage where
  /-- A field. -/
  | field
  /-- An operator, after a field that needs one. -/
  | operator
  /-- An operator or nothing, after a boolean field. -/
  | flag
  /-- The constant of an operator. -/
  | constant
  /-- The parenthesis that opens a list. -/
  | opening
  /-- A constant of a list. -/
  | item
  /-- A comma, or the parenthesis that closes a list. -/
  | separator
  /-- Nothing. -/
  | complete
deriving DecidableEq

/-- A comparison in registers. -/
structure Registers where
  stage : Stage
  field? : Option Field
  operator? : Option KindSet
  constants : List Constant

namespace Registers

/-- The registers before the first token. -/
def blank : Registers :=
  ⟨.field, none, none, []⟩

/-- Whether a token may be taken. -/
def canAdd (r : Registers) (t : Token) : Bool :=
  match r.stage with
  | .flag => t.isOf .comparison
  | .complete => false
  | _ => true

/-- Whether the comparison may end here. -/
def isComplete (r : Registers) : Bool :=
  r.stage == .flag || r.stage == .complete

/-- Writes the operator of a field, and gives the stage after it. -/
def takeOperator (f : Field) (t : Token) : EStateM Refusal Registers Stage := do
  if !t.isOf .comparison then
    throw t.misplaced
  if !f.supports t.kinds then
    throw (.unsupportedOperator f.name t.text)
  modify fun r => { r with operator? := some t.kinds }
  return if t.kinds = .single .memberOf then .opening else .constant

/-- Writes a further constant of a field. -/
def takeConstant (f : Field) (allowNull : Bool) (t : Token) : EStateM Refusal Registers Unit := do
  let c ← ofExcept (f.readConstant allowNull t)
  modify fun r => { r with constants := r.constants ++ [c] }

/-- Writes what a token adds, and gives the stage after it. -/
def advance (w : Whitelist) (t : Token) : EStateM Refusal Registers Stage := do
  let r ← get
  match r.stage, r.field? with
  | .field, _ =>
      let f ← ofExcept (w.fieldOf t)
      modify fun r => { r with field? := some f }
      return if f.type.isBoolean then .flag else .operator
  | .operator, some f => takeOperator f t
  | .flag, some f => takeOperator f t
  | .constant, some f =>
      takeConstant f (r.operator?.any KindSet.equality.covers) t
      return .complete
  | .opening, some _ =>
      if !t.is .openParen then
        throw t.misplaced
      return .item
  | .item, some f =>
      takeConstant f true t
      return .separator
  | .separator, some _ =>
      if t.is .comma then
        return .item
      if !t.is .closeParen then
        throw t.misplaced
      return .complete
  -- The comparison is complete, or a field is missing that the stage needs.
  | _, _ => throw t.misplaced

/-- Takes a token.  The stage is written last. -/
def update (w : Whitelist) (t : Token) : EStateM Refusal Registers Unit := do
  let stage ← advance w t
  modify fun r => { r with stage := stage }

/-- The output of a comparison in registers, which is nothing where a field or a constant is
missing. -/
def pieces (r : Registers) : List Piece :=
  match r.field?, r.operator? with
  | none, _ => []
  | some f, none => [.text f.target]
  | some f, some op =>
      if op = .single .memberOf then
        [.text f.compared, .text "in", .text "("] ++ listPieces r.constants ++ [.text ")"]
      else
        match r.constants with
        | [] => []
        | c :: _ => scalarPieces f op c

end Registers

/-- What a comparison expects next. -/
def stage : Comparison → Stage
  | .blank => .field
  | .flag _ => .flag
  | .named _ => .operator
  | .operated _ _ => .constant
  | .compared _ _ _ => .complete
  | .listed _ _ .opening => .opening
  | .listed _ _ .item => .item
  | .listed _ _ .separator => .separator
  | .listed _ _ .closed => .complete

/-- The registers that hold a comparison. -/
def registers (c : Comparison) : Registers :=
  ⟨c.stage, c.field?, c.operator?, c.constants⟩

end Comparison

/-! ### Calls -/

namespace Call

/-- What a call expects next. -/
inductive Stage where
  /-- The name of a function. -/
  | function
  /-- The parenthesis that opens the call. -/
  | opening
  /-- A field. -/
  | field
  /-- A comma. -/
  | comma
  /-- A constant. -/
  | constant
  /-- The parenthesis that closes the call. -/
  | closing
  /-- Nothing. -/
  | complete
deriving DecidableEq

/-- The kinds of which the next token must be. -/
def Stage.expected : Stage → KindSet
  | .function => .stringFunction
  | .opening => .single .openParen
  | .field => .single .field
  | .comma => .single .comma
  | .constant => .constant
  | .closing => .single .closeParen
  | .complete => ∅

/-- A call in registers. -/
structure Registers where
  stage : Stage
  function? : Option KindSet
  field? : Option Field
  value? : Option Value

namespace Registers

/-- The registers before the first token. -/
def blank : Registers :=
  ⟨.function, none, none, none⟩

/-- Whether the call is closed. -/
def isComplete (r : Registers) : Bool :=
  r.stage == .complete

/-- Whether a token may be taken. -/
def canAdd (r : Registers) (_ : Token) : Bool :=
  !r.isComplete

/-- Writes the field that a token names, and gives the stage after it. -/
def takeField (w : Whitelist) (t : Token) : EStateM Refusal Registers Stage := do
  let r ← get
  let f ← ofExcept (w.fieldOf t)
  if let some fn := r.function? then
    if !f.supports fn then
      throw (.unsupportedOperator f.name (fn.functionName?.getD ""))
  modify fun r => { r with field? := some f }
  return .comma

/-- Writes the value that a token stands for, and gives the stage after it. -/
def takeValue (t : Token) : EStateM Refusal Registers Stage := do
  let r ← get
  let some f := r.field? | throw t.misplaced
  match ← ofExcept (f.readConstant false t) with
  | .value v => modify fun r => { r with value? := some v }
  | .null => throw (.invalidValue f.name "null")
  return .closing

/-- Writes what a token adds, and gives the stage after it. -/
def advance (w : Whitelist) (t : Token) : EStateM Refusal Registers Stage := do
  let r ← get
  if !t.isOf r.stage.expected then
    throw t.misplaced
  match r.stage with
  | .function =>
      modify fun r => { r with function? := some t.kinds }
      return .opening
  | .opening => return .field
  | .field => takeField w t
  | .comma => return .constant
  | .constant => takeValue t
  | .closing => return .complete
  | .complete => return .complete

/-- Takes a token.  The stage is written last. -/
def update (w : Whitelist) (t : Token) : EStateM Refusal Registers Unit := do
  let stage ← advance w t
  modify fun r => { r with stage := stage }

/-- The output of a call in registers, which is nothing where something is missing. -/
def pieces (r : Registers) : List Piece :=
  match r.field?, r.function?.bind KindSet.functionName?, r.value? with
  | some f, some name, some v => callPieces name f v
  | _, _, _ => []

end Registers

/-- What a call expects next. -/
def stage : Call → Stage
  | .blank => .function
  | .named _ => .opening
  | .opened _ => .field
  | .fielded _ _ => .comma
  | .separated _ _ => .constant
  | .valued _ _ _ => .closing
  | .closed _ _ _ => .complete

/-- The registers that hold a call. -/
def registers (c : Call) : Registers :=
  ⟨c.stage, c.function?, c.field?, c.value?⟩

end Call

/-! ### Nodes -/

namespace Node

/-- A node in registers.  Logical operators and parentheses have no register that changes. -/
inductive Registers where
  | comparison (r : Comparison.Registers)
  | call (r : Call.Registers)
  | logical (kinds : KindSet)
  | openParen (t : Token)
  | closeParen (t : Token)

/-- The outcome of an update of a part, with the whole around the part. -/
def around {σ τ : Type} (whole : σ → τ) :
    EStateM.Result Refusal σ Unit → EStateM.Result Refusal τ Unit
  | .ok () s => .ok () (whole s)
  | .error r s => .error r (whole s)

namespace Registers

/-- Whether a token may be taken. -/
def canAdd (n : Registers) (t : Token) : Bool :=
  match n with
  | .comparison r => r.canAdd t
  | .call r => r.canAdd t
  | _ => false

/-- Whether the node may end here. -/
def isComplete : Registers → Bool
  | .comparison r => r.isComplete
  | .call r => r.isComplete
  | _ => true

/-- Takes a token. -/
def update (w : Whitelist) (t : Token) : EStateM Refusal Registers Unit := fun n =>
  match n with
  | .comparison r => around .comparison ((Comparison.Registers.update w t).run r)
  | .call r => around .call ((Call.Registers.update w t).run r)
  | _ => .error t.misplaced n

/-- The output of a node in registers. -/
def pieces : Registers → List Piece
  | .comparison r => r.pieces
  | .call r => r.pieces
  | .logical kinds => (kinds.logicalSymbol?.map Piece.text).toList
  | .openParen _ => [.text "("]
  | .closeParen _ => [.text ")"]

/-- The output of a node in registers by itself. -/
def render (n : Registers) : Predicate :=
  Predicate.empty.write n.pieces

end Registers

/-- The registers that hold a node. -/
def registers : Node → Registers
  | .comparison c => .comparison c.registers
  | .call c => .call c.registers
  | .logical kinds => .logical kinds
  | .openParen t => .openParen t
  | .closeParen t => .closeParen t

end Node

end FilterQuery
