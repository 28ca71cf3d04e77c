/-
**Typed values: the arguments of a predicate.**

A value is present or a typed null.  Reading a constant gives values of the eight field types; a
conversion that a caller supplies may give a value of any other type, which is only passed on.

Main definitions:

* `Value` — a value or a typed null;
* `Value.type?`, `Value.isNull` — the field type of a value, if it has one, and whether it is a
  null;
* `Value.null` — the null of a type;
* `Value.read?` — the value of a constant text as a given type;
* `Value.diagnostic` — the form in which a diagnostic shows a value.

Main results:

* `Value.type?_of_read?`, `Value.isNull_of_read?` — reading as a type gives a present value of that
  type.
-/

import FilterQuery.Calendar.Instant
import FilterQuery.FieldType
import FilterQuery.Guid
import FilterQuery.Number.Integer
import FilterQuery.Number.Shortest
import FilterQuery.Text.Escaped

set_option relaxedAutoImplicit false
set_option autoImplicit false

namespace FilterQuery

/-- A typed value, absent for a null of its type. -/
inductive Value where
  | string (content : Option String)
  | bool (content : Option Bool)
  | int (content : Option Int32)
  | long (content : Option Int64)
  | double (content : Option Number.Binary64)
  | guid (content : Option Guid)
  | date (content : Option Calendar.Date)
  | dateTime (content : Option Calendar.Instant)
  /-- A value of a type that no field has, by the name of the type and the text of the content. -/
  | other (name : String) (content : Option String)
deriving DecidableEq

namespace Value

/-- The field type of a value, if there is one. -/
def type? : Value → Option FieldType
  | .string _ => some .string
  | .bool _ => some .bool
  | .int _ => some .int
  | .long _ => some .long
  | .double _ => some .double
  | .guid _ => some .guid
  | .date _ => some .date
  | .dateTime _ => some .dateTime
  | .other _ _ => none

/-- Whether a value is the null of its type. -/
def isNull : Value → Bool
  | .string v => v.isNone
  | .bool v => v.isNone
  | .int v => v.isNone
  | .long v => v.isNone
  | .double v => v.isNone
  | .guid v => v.isNone
  | .date v => v.isNone
  | .dateTime v => v.isNone
  | .other _ v => v.isNone

/-- The null of a type. -/
def null : FieldType → Value
  | .string => .string none
  | .bool => .bool none
  | .int => .int none
  | .long => .long none
  | .double => .double none
  | .guid => .guid none
  | .date => .date none
  | .dateTime => .dateTime none

@[simp] theorem type?_null (t : FieldType) : (null t).type? = some t := by
  cases t <;> rfl

@[simp] theorem isNull_null (t : FieldType) : (null t).isNull = true := by
  cases t <;> rfl

/-! ### Reading -/

/-- A truth value, in any case. -/
def readBool? (text : String) : Option Bool :=
  if Text.sameAsciiCase text "true" then some true
  else if Text.sameAsciiCase text "false" then some false
  else none

/-- The value of a constant text as a type. -/
def read? (type : FieldType) (text : String) : Option Value :=
  match type with
  | .string => some (.string (some text))
  | .bool => (readBool? text).map fun v => .bool (some v)
  | .int => (Number.readInt32? text.toList).map fun v => .int (some v)
  | .long => (Number.readInt64? text.toList).map fun v => .long (some v)
  | .double => (Number.readBinary64? text.toList).map fun v => .double (some v)
  | .guid => (Guid.read? text.toList).map fun v => .guid (some v)
  | .date => (Calendar.Date.read? text.toList).map fun v => .date (some v)
  | .dateTime => (Calendar.Instant.read? text.toList).map fun v => .dateTime (some v)

/-- Reading as a type gives a value of that type. -/
theorem type?_of_read? {t : FieldType} {text : String} {v : Value} (h : read? t text = some v) :
    v.type? = some t := by
  cases t <;> simp only [read?, Option.map_eq_some_iff, Option.some.injEq] at h
  case string => rw [← h]; rfl
  all_goals
    obtain ⟨w, -, rfl⟩ := h
    rfl

/-- Reading never gives a null. -/
theorem isNull_of_read? {t : FieldType} {text : String} {v : Value} (h : read? t text = some v) :
    v.isNull = false := by
  cases t <;> simp only [read?, Option.map_eq_some_iff, Option.some.injEq] at h
  case string => rw [← h]; rfl
  all_goals
    obtain ⟨w, -, rfl⟩ := h
    rfl

/-! ### Diagnostics -/

/-- A content inside the name of its kind. -/
def label (name : String) (content : Option String) : String :=
  match content with
  | some text => name ++ "(Some(" ++ text ++ "))"
  | none => name ++ "(None)"

/-- The form in which a diagnostic shows a value. -/
def diagnostic : Value → String
  | .string v => label "String" (v.map Text.escaped)
  | .bool v => label "Bool" (v.map fun b => if b then "true" else "false")
  | .int v => label "Int" (v.map fun n => String.ofList (Number.showInteger n.toInt))
  | .long v => label "BigInt" (v.map fun n => String.ofList (Number.showInteger n.toInt))
  | .double v => label "Double" (v.map (Number.showBinary64 .diagnostic))
  | .guid v => label "Uuid" (v.map Guid.render)
  | .date v => label "ChronoDate" (v.map fun d => String.ofList d.render)
  | .dateTime v => label "ChronoDateTimeUtc" (v.map fun t => String.ofList t.render)
  | .other name v => label name v

end Value

end FilterQuery
