/-
**Schemas: a declaration of what can be filtered and sorted.**

A schema lists the fields of a whitelist and of a sort table with their options, and a default
ordering.  Building the two tables checks every entry; the first fault decides.

Main definitions:

* `FieldEntry`, `SortEntry`, `Schema` — the entries of a schema;
* `SchemaFault`, `SchemaFault.message` — why a schema is not accepted;
* `FieldEntry.operatorKinds`, `FieldEntry.registration` — the checked operators of an entry, and
  the field it declares;
* `Schema.whitelist`, `Schema.sortTable` — the tables of a schema;
* `Schema.demo` — a schema to try things out with.

Main results:

* `Kind.ofOperator?_eq_some_iff` — the operators are the keywords of comparisons and functions.
-/

import FilterQuery.SortTable
import FilterQuery.Whitelist

set_option relaxedAutoImplicit false
set_option autoImplicit false

namespace FilterQuery

/-! ### Entries -/

/-- A field that can be filtered by. -/
structure FieldEntry where
  name : String
  /-- The name that the output uses, if it is another one. -/
  renamed? : Option String
  type : FieldType
  /-- Whether both sides are compared in upper case. -/
  ignoreCase : Bool
  /-- Whether a comparison is guarded against null. -/
  checkNotNull : Bool
  /-- The supported operators, if they are not those of the type. -/
  operators? : Option (List String)
deriving DecidableEq

/-- A field that can be sorted by. -/
structure SortEntry where
  name : String
  /-- The name that the output uses, if it is another one. -/
  renamed? : Option String
  ascending : Bool
  descending : Bool
deriving DecidableEq

/-- A declaration of what can be filtered and sorted. -/
structure Schema where
  fields : List FieldEntry
  sorts : List SortEntry
  defaultOrder? : Option String
deriving DecidableEq

/-! ### Faults -/

/-- Why a schema is not accepted. -/
inductive SchemaFault where
  /-- An operator of a field does not exist. -/
  | unknownOperator (field operator : String)
  /-- An option of a field is for texts only. -/
  | stringOnly (field : String) (type : FieldType) (option : String)
  /-- A field cannot be registered. -/
  | registration (refusal : Refusal)
deriving DecidableEq

/-- The message of a fault. -/
def SchemaFault.message : SchemaFault → String
  | .unknownOperator field operator =>
      "unknown operator '" ++ operator ++ "' for field '" ++ field ++ "'"
  | .stringOnly field type option =>
      "'" ++ option ++ "' is only valid on string fields, but '" ++ field ++ "' is " ++ type.label
  | .registration refusal => refusal.message

/-! ### Fields -/

/-- The kind of an operator that a schema names: a keyword of a comparison or a string function. -/
def Kind.ofOperator? (word : String) : Option Kind :=
  (Kind.ofKeyword? word).filter fun k => (KindSet.comparison.union .stringFunction).has k

/-- The operators are the keywords of comparisons and functions. -/
theorem Kind.ofOperator?_eq_some_iff {word : String} {k : Kind} :
    Kind.ofOperator? word = some k ↔
      Kind.ofKeyword? word = some k ∧ (k ∈ KindSet.comparison ∨ k ∈ KindSet.stringFunction) := by
  simp [Kind.ofOperator?, Option.filter_eq_some_iff, KindSet.union, KindSet.mem_iff]

namespace FieldEntry

/-- The fault of an option that is for texts only. -/
def stringOnly (e : FieldEntry) (option : String) : SchemaFault :=
  .stringOnly e.name e.type option

/-- The kind of an operator, if the type of the field allows it. -/
def operatorKind (e : FieldEntry) (operator : String) : Except SchemaFault Kind :=
  match Kind.ofOperator? operator with
  | none => .error (.unknownOperator e.name operator)
  | some k => if k ∈ e.type.allowedOperators then .ok k else .error (e.stringOnly operator)

/-- The kinds of the listed operators, none if there is no list.  The options for texts only are
checked first, and the operators in order. -/
def operatorKinds (e : FieldEntry) : Except SchemaFault (Option (List Kind)) :=
  if e.ignoreCase ∧ !e.type.isString then .error (e.stringOnly "ignore_case")
  else
    match e.operators? with
    | none => .ok none
    | some operators => (operators.mapM e.operatorKind).map some

/-- The settings of a field with the given operators. -/
def settings (e : FieldEntry) (kinds? : Option (List Kind)) : List Setting :=
  (e.renamed?.map Setting.rename).toList ++
    (if e.ignoreCase then [.upperCase] else []) ++
    (if e.checkNotNull then [.notNull] else []) ++
    (kinds?.map fun ks => Setting.onlySupports (.ofList ks)).toList

/-- The field that an entry declares. -/
def registration (e : FieldEntry) : Except SchemaFault Registration :=
  e.operatorKinds.map fun kinds? => ⟨e.name, e.type, e.settings kinds?⟩

end FieldEntry

/-- The sortable field that an entry declares. -/
def SortEntry.field (e : SortEntry) : SortField :=
  ⟨e.name, e.renamed?, e.ascending, e.descending⟩

/-! ### Tables -/

namespace Schema

/-- The whitelist with the field of a further entry. -/
def addField (w : Whitelist) (e : FieldEntry) : Except SchemaFault Whitelist :=
  e.registration.bind fun r => (w.add r.field).mapError .registration

/-- The whitelist of a schema, or the fault of its first faulty entry. -/
def whitelist (s : Schema) : Except SchemaFault Whitelist :=
  s.fields.foldlM addField ∅

/-- The sort table with the field of a further entry. -/
def addSort (table : SortTable) (e : SortEntry) : Except SchemaFault SortTable :=
  (table.add e.field).mapError .registration

/-- The sort table of a schema, or the fault of its first faulty entry. -/
def sortTable (s : Schema) : Except SchemaFault SortTable :=
  (s.sorts.foldlM addSort ∅).map fun table =>
    match s.defaultOrder? with
    | none => table
    | some text => table.setDefault text

/-- A schema to try things out with. -/
def demo : Schema where
  fields :=
    [⟨"name", none, .string, true, true,
        some ["eq", "ne", "in", "startswith", "endswith", "contains"]⟩,
      ⟨"age", none, .int, false, false, none⟩,
      ⟨"active", none, .bool, false, false, none⟩,
      ⟨"id", none, .guid, false, false, none⟩,
      ⟨"created", none, .date, false, false, none⟩]
  sorts :=
    [⟨"name", none, true, true⟩, ⟨"age", none, true, true⟩, ⟨"created", none, true, true⟩]
  defaultOrder? := some "name asc"

end Schema

end FilterQuery
