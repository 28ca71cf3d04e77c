/-
**The declared types of fields.**

The type of a field decides which operators it may be compared with and which constants it may be
compared to.

Main definitions:

* `FieldType` — the eight types a field can be declared with;
* `FieldType.keyword`, `FieldType.label` — the name of a type in a schema and in messages;
* `FieldType.defaultOperators`, `FieldType.allowedOperators`, `FieldType.constantKinds` — the
  operators of a new field, the operators it may be given, and the constants it takes.

Main results:

* `FieldType.ofKeyword?_keyword` — a keyword names its type;
* `FieldType.allowedOperators_covers_defaultOperators` — what a new field supports is allowed.
-/

import FilterQuery.Kind

set_option relaxedAutoImplicit false
set_option autoImplicit false

namespace FilterQuery

/-- The type of the values that a field is compared with. -/
inductive FieldType where
  | string
  | bool
  | int
  | long
  | double
  | guid
  | date
  | dateTime
deriving DecidableEq

namespace FieldType

/-! ### Names -/

/-- Every type, in order. -/
def all : List FieldType :=
  [.string, .bool, .int, .long, .double, .guid, .date, .dateTime]

/-- The name of a type in a schema. -/
def keyword : FieldType → String
  | .string => "string"
  | .bool => "bool"
  | .int => "int"
  | .long => "long"
  | .double => "double"
  | .guid => "guid"
  | .date => "date"
  | .dateTime => "datetime"

/-- The name of a type in messages. -/
def label : FieldType → String
  | .string => "String"
  | .bool => "Bool"
  | .int => "Int"
  | .long => "Long"
  | .double => "Double"
  | .guid => "Guid"
  | .date => "Date"
  | .dateTime => "DateTime"

/-- The type that a schema names. -/
def ofKeyword? (word : String) : Option FieldType :=
  all.find? fun t => t.keyword == word

/-- A keyword names its type. -/
theorem ofKeyword?_keyword (t : FieldType) : ofKeyword? t.keyword = some t := by
  cases t <;> decide

/-! ### Operators and constants -/

/-- Whether values of the type are texts. -/
def isString : FieldType → Bool
  | .string => true
  | _ => false

theorem isString_iff {t : FieldType} : t.isString = true ↔ t = .string := by
  cases t <;> decide

/-- Whether a field of the type is a condition by itself. -/
def isBoolean : FieldType → Bool
  | .bool => true
  | _ => false

/-- The operators that a new field of the type supports. -/
def defaultOperators : FieldType → KindSet
  | .bool => .equality
  | _ => .comparison

/-- The operators that a field of the type may be given: string functions are for texts only. -/
def allowedOperators : FieldType → KindSet
  | .string => KindSet.comparison.union .stringFunction
  | _ => .comparison

/-- The kinds of constants that a field of the type is compared to. -/
def constantKinds : FieldType → KindSet
  | .string => .ofList [.literal, .nullWord]
  | .bool => KindSet.boolean.union (.single .nullWord)
  | _ => .ofList [.value, .nullWord]

/-- What a new field supports is allowed. -/
theorem allowedOperators_covers_defaultOperators (t : FieldType) :
    t.allowedOperators.covers t.defaultOperators = true := by
  cases t <;> decide

end FieldType

end FilterQuery
