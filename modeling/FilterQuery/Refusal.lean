/-
**Refusals: why an input is not accepted.**

A refusal names its cause with the source text it concerns.  The wording of messages is kept in
one place.

Main definitions:

* `SortFault` — why an ordering is not accepted;
* `Refusal` — why a filter, an ordering or a registration is not accepted;
* `Refusal.message` — the message shown to the caller.
-/

set_option relaxedAutoImplicit false
set_option autoImplicit false

namespace FilterQuery

/-- The direction of an ordering. -/
inductive Direction where
  | ascending
  | descending
deriving DecidableEq

/-- The full name of a direction. -/
def Direction.name : Direction → String
  | .ascending => "ascending"
  | .descending => "descending"

/-- Why an ordering is not accepted. -/
inductive SortFault where
  /-- A clause has no word. -/
  | emptyClause
  /-- A clause has more than two words. -/
  | tooManyParts (clause : String)
  /-- A clause names a field that cannot be sorted by. -/
  | unknownField (name : String)
  /-- The second word of a clause is no direction. -/
  | badDirection (word : String)
  /-- A field cannot be sorted in a direction. -/
  | unsupportedDirection (field : String) (direction : Direction)
deriving DecidableEq

/-- The message of a fault of an ordering. -/
def SortFault.message : SortFault → String
  | .emptyClause => "empty clause"
  | .tooManyParts clause => "too many parts in clause '" ++ clause ++ "'"
  | .unknownField name => "field '" ++ name ++ "' is not supported"
  | .badDirection word => "direction '" ++ word ++ "' is not valid"
  | .unsupportedDirection field direction =>
      "field '" ++ field ++ "' does not support " ++ direction.name ++ " order"

/-- Why a filter, an ordering or a registration is not accepted.  Positions are byte offsets. -/
inductive Refusal where
  /-- A literal has no closing quote. -/
  | unterminatedLiteral (start : Nat)
  /-- A field is not registered. -/
  | unknownField (name : String)
  /-- A field does not support an operator. -/
  | unsupportedOperator (field operator : String)
  /-- A constant is not admissible for a field. -/
  | invalidValue (field value : String)
  /-- A token stands where the grammar does not allow it. -/
  | misplaced (text : String) (start : Nat)
  /-- A parenthesis has no partner. -/
  | unbalanced (text : String) (start : Nat)
  /-- The text ends inside an expression. -/
  | incomplete (text : String) (start : Nat)
  /-- An ordering is not accepted. -/
  | ordering (fault : SortFault)
  /-- A name is registered already. -/
  | duplicateField (name : String)
deriving DecidableEq

/-- The message shown to the caller. -/
def Refusal.message : Refusal → String
  | .unterminatedLiteral start =>
      "Literal has not been terminated (starting at position " ++ toString start ++ ")"
  | .unknownField name => "Field '" ++ name ++ "' is not supported"
  | .unsupportedOperator field operator =>
      "Operator '" ++ operator ++ "' is not supported by field '" ++ field ++ "'"
  | .invalidValue field value =>
      "Value '" ++ value ++ "' is not valid for field '" ++ field ++ "'"
  | .misplaced text start =>
      "Filter is syntactically incorrect at '" ++ text ++ "' (position " ++ toString start ++ ")"
  | .unbalanced text start =>
      "Filter has unbalanced parentheses at '" ++ text ++ "' (position " ++ toString start ++ ")"
  | .incomplete text start =>
      "Filter ends with an incomplete expression at '" ++ text ++ "' (position " ++
        toString start ++ ")"
  | .ordering fault => "Order by is invalid: " ++ fault.message
  | .duplicateField name => "Field '" ++ name ++ "' has already been registered"

end FilterQuery
