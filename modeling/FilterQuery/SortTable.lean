/-
**Orderings: a list of fields with directions.**

An ordering is a comma-separated list of clauses.  A clause is the name of a sortable field and,
optionally, a direction, which may be shortened as long as it cannot be mistaken: to at least
three letters for ascending and four for descending.

Main definitions:

* `SortField`, `SortTable` — the fields that can be sorted by, and a default ordering;
* `SortTable.find?`, `SortTable.add` — looking a name up, and registering a field;
* `SortClause`, `SortClause.render` — a clause that has been read, and its output;
* `readDirection?` — the direction that a word stands for;
* `SortTable.parseClauses`, `SortTable.parse`, `SortTable.parseOrDefault` — reading an ordering.

Main results:

* `SortTable.find?_eq_some_iff` — a name finds the one field with its key;
* `SortTable.parseOrDefault_of_parse` — the default matters only where there is no ordering.
-/

import FilterQuery.Keyed
import FilterQuery.Refusal
import FilterQuery.Text.Blank
import FilterQuery.Text.Casing

set_option relaxedAutoImplicit false
set_option autoImplicit false

namespace FilterQuery

/-! ### Fields -/

/-- A field that can be sorted by. -/
structure SortField where
  /-- The name that callers use. -/
  name : String
  /-- The name that the output uses, if it is another one. -/
  renamed? : Option String
  /-- Whether ascending order is supported. -/
  ascending : Bool
  /-- Whether descending order is supported. -/
  descending : Bool
deriving DecidableEq

namespace SortField

/-- The name that the output uses. -/
def target (f : SortField) : String :=
  f.renamed?.getD f.name

/-- The form of the name under which the field is found: case does not matter. -/
def key (f : SortField) : String :=
  Text.lower f.name

/-- Whether the field can be sorted in a direction. -/
def supports (f : SortField) : Direction → Bool
  | .ascending => f.ascending
  | .descending => f.descending

end SortField

/-- The fields that can be sorted by in the order of their registration, no two of which share a
key, and the ordering that stands in for a missing one. -/
structure SortTable where
  fields : List SortField
  nodup_keys : (fields.map SortField.key).Nodup
  default? : Option String

namespace SortTable

/-- The table without a field and without a default. -/
def empty : SortTable :=
  ⟨[], by simp, none⟩

instance : EmptyCollection SortTable := ⟨empty⟩

/-- The field of a name. -/
def find? (table : SortTable) (name : String) : Option SortField :=
  let key := Text.lower name
  table.fields.find? fun f => f.key == key

/-- A name finds the one field with its key. -/
theorem find?_eq_some_iff {table : SortTable} {name : String} {f : SortField} :
    table.find? name = some f ↔ f ∈ table.fields ∧ f.key = Text.lower name :=
  List.find?_key_eq_some_iff table.nodup_keys

/-- A name finds nothing exactly if no field has its key. -/
theorem find?_eq_none_iff {table : SortTable} {name : String} :
    table.find? name = none ↔ ∀ f ∈ table.fields, f.key ≠ Text.lower name := by
  simp [find?]

/-- The keys stay distinct when a field with a new key comes last. -/
theorem nodup_keys_append {table : SortTable} {f : SortField} (h : table.find? f.name = none) :
    ((table.fields ++ [f]).map SortField.key).Nodup :=
  List.nodup_map_append_of_forall_ne table.nodup_keys (find?_eq_none_iff.1 h)

/-- The table with a further field, unless its name is taken. -/
def add (table : SortTable) (f : SortField) : Except Refusal SortTable :=
  if h : table.find? f.name = none then
    .ok ⟨table.fields ++ [f], nodup_keys_append h, table.default?⟩
  else .error (.duplicateField f.name)

/-- The table with another default ordering. -/
def setDefault (table : SortTable) (text : String) : SortTable :=
  { table with default? := some text }

end SortTable

/-! ### Clauses -/

/-- A clause of an ordering: the output name of a field and the direction, if one was given. -/
structure SortClause where
  target : String
  direction? : Option Direction
deriving DecidableEq

/-- The short name of a direction. -/
def Direction.shortName : Direction → String
  | .ascending => "asc"
  | .descending => "desc"

/-- The output of a clause. -/
def SortClause.render (c : SortClause) : String :=
  match c.direction? with
  | none => c.target
  | some d => c.target ++ " " ++ d.shortName

/-- The direction that a word stands for, in any ASCII case: a beginning of its full name that is
at least as long as its short name. -/
def readDirection? (word : List Char) : Option Direction :=
  let lower := word.map Char.toLower
  let stands (d : Direction) : Bool :=
    lower.isPrefixOf d.name.toList && decide (d.shortName.length ≤ lower.length)
  if stands .ascending then some .ascending
  else if stands .descending then some .descending
  else none

namespace SortTable

/-! ### Reading -/

/-- The direction of a field that a word stands for. -/
def directionOf (f : SortField) (word : List Char) : Except SortFault Direction :=
  match readDirection? word with
  | none => .error (.badDirection (String.ofList word))
  | some d => if f.supports d then .ok d else .error (.unsupportedDirection f.name d)

/-- The clause of a field name and an optional direction. -/
def clauseOf (table : SortTable) (name : List Char) (direction? : Option (List Char)) :
    Except SortFault SortClause :=
  match table.find? (String.ofList name) with
  | none => .error (.unknownField (String.ofList name))
  | some f =>
      match direction? with
      | none => .ok ⟨f.target, none⟩
      | some word => (directionOf f word).map fun d => ⟨f.target, some d⟩

/-- A clause of one or two words. -/
def parseClause (table : SortTable) (clause : List Char) : Except SortFault SortClause :=
  match Text.words clause with
  | [] => .error .emptyClause
  | [name] => table.clauseOf name none
  | [name, direction] => table.clauseOf name (some direction)
  | _ => .error (.tooManyParts (String.ofList (Text.trim clause)))

/-- The clauses of an ordering, or the fault of the first clause that has one. -/
def parseClauses (table : SortTable) (text : String) : Except Refusal (List SortClause) :=
  ((text.toList.splitOn ',').mapM table.parseClause).mapError .ordering

/-- The output of a list of clauses. -/
def renderClauses (clauses : List SortClause) : String :=
  ", ".intercalate (clauses.map SortClause.render)

/-- The output of an ordering, none if it is missing or blank. -/
def parse (table : SortTable) (text? : Option String) : Except Refusal (Option String) :=
  match text? with
  | none => .ok none
  | some text =>
      if Text.isBlankText text then .ok none
      else (table.parseClauses text).map fun cs => some (renderClauses cs)

/-- The output of an ordering.  The default stands in, as it was given, for a missing or blank
one. -/
def parseOrDefault (table : SortTable) (text? : Option String) : Except Refusal (Option String) :=
  (table.parse text?).map fun r => r.or table.default?

/-- The default matters only where there is no ordering. -/
theorem parseOrDefault_of_parse {table : SortTable} {text? : Option String} {r : String}
    (h : table.parse text? = .ok (some r)) : table.parseOrDefault text? = .ok (some r) := by
  simp [parseOrDefault, h, Except.map]

end SortTable

end FilterQuery
