/-
**Schemas as JSON text.**

A schema is an object with the members `fields`, `order_by` and `default_order`, all of them
optional.  An object may also be given as the array of its members' values in order, where members
at the end may be left out if they are optional.  Members of other names are passed over, but a
member must not be given twice.

Main definitions:

* `Schema.toJson`, `Schema.toText` — writing; members that are absent are left out;
* `Json.slots?` — the members of an object by name, or of an array by position;
* `Schema.ofJson?`, `Schema.ofText?` — reading.
-/

import FilterQuery.Json.Read
import FilterQuery.Schema

set_option relaxedAutoImplicit false
set_option autoImplicit false

namespace FilterQuery

/-! ### Writing -/

/-- A member of an object. -/
def Json.member (name : String) (value : Json) : Json.Text × Json :=
  (some name, value)

/-- A member of an object that is left out if it is absent. -/
def Json.member? (name : String) (value? : Option Json) : List (Json.Text × Json) :=
  (value?.map (Json.member name)).toList

/-- The object of a field. -/
def FieldEntry.toJson (e : FieldEntry) : Json :=
  .object
    ([Json.member "name" (.ofString e.name)] ++
      Json.member? "rename" (e.renamed?.map .ofString) ++
      [Json.member "type" (.ofString e.type.keyword),
        Json.member "ignore_case" (.bool e.ignoreCase),
        Json.member "check_not_null" (.bool e.checkNotNull)] ++
      Json.member? "operators" (e.operators?.map fun os => .array (os.map .ofString)))

/-- The object of a sortable field. -/
def SortEntry.toJson (e : SortEntry) : Json :=
  .object
    ([Json.member "name" (.ofString e.name)] ++
      Json.member? "rename" (e.renamed?.map .ofString) ++
      [Json.member "ascending" (.bool e.ascending),
        Json.member "descending" (.bool e.descending)])

/-- The object of a schema. -/
def Schema.toJson (s : Schema) : Json :=
  .object
    ([Json.member "fields" (.array (s.fields.map FieldEntry.toJson)),
      Json.member "order_by" (.array (s.sorts.map SortEntry.toJson))] ++
      Json.member? "default_order" (s.defaultOrder?.map .ofString))

/-- The compact text of a schema. -/
def Schema.toText (s : Schema) : String :=
  String.ofList s.toJson.render

/-! ### Reading -/

namespace Json

/-- The characters of a text. -/
def string? : Json → Option String
  | .text t => t
  | _ => none

/-- A truth value. -/
def bool? : Json → Option Bool
  | .bool b => some b
  | _ => none

/-- An array whose items are all read. -/
def list? {α : Type} (read : Json → Option α) : Json → Option (List α)
  | .array items => items.mapM read
  | _ => none

/-- A null, or a value that is read. -/
def nullable? {α : Type} (read : Json → Option α) : Json → Option (Option α)
  | .null => some none
  | j => (read j).map some

/-- The values of the members of one name. -/
def valuesOf (name : String) (members : List (Json.Text × Json)) : List Json :=
  (members.filter fun m => m.1 == some name).map fun m => m.2

/-- The value of the members of one name: absent if there is none, and not readable if there are
several. -/
def slot? (members : List (Json.Text × Json)) (name : String) : Option (Option Json) :=
  match valuesOf name members with
  | [] => some none
  | [v] => some (some v)
  | _ => none

/-- The values of the named members: of an object by name, and of an array by position.  Every
name in an object must be a text with characters. -/
def slots? (names : List String) : Json → Option (List (Option Json))
  -- A name is compared before its value is looked at, so it has to be a text even if passed over.
  | .object members =>
      if members.all fun m => m.1.isSome then names.mapM (slot? members) else none
  | .array items =>
      if items.length ≤ names.length then
        some (items.map some ++ List.replicate (names.length - items.length) none)
      else none
  | _ => none

/-- The value of a slot that may be empty. -/
def slotD {α : Type} (read : Json → Option α) (default : α) : Option Json → Option α
  | none => some default
  | some j => read j

/-- The type that a name stands for, given as a text or as the only member of an object, with
null as its value. -/
def fieldType? : Json → Option FieldType
  | .text t => t.bind FieldType.ofKeyword?
  | .object [(some name, .null)] => FieldType.ofKeyword? name
  | _ => none

end Json

/-- The field that a document declares. -/
def FieldEntry.ofJson? (j : Json) : Option FieldEntry :=
  match j.slots? ["name", "rename", "type", "ignore_case", "check_not_null", "operators"] with
  | some [some name, rename, some type, ignoreCase, checkNotNull, operators] => do
      let name ← name.string?
      let renamed? ← Json.slotD (Json.nullable? Json.string?) none rename
      let type ← type.fieldType?
      let ignoreCase ← Json.slotD Json.bool? false ignoreCase
      let checkNotNull ← Json.slotD Json.bool? false checkNotNull
      let operators? ← Json.slotD (Json.nullable? (Json.list? Json.string?)) none operators
      return ⟨name, renamed?, type, ignoreCase, checkNotNull, operators?⟩
  | _ => none

/-- The sortable field that a document declares.  Both directions are supported by default. -/
def SortEntry.ofJson? (j : Json) : Option SortEntry :=
  match j.slots? ["name", "rename", "ascending", "descending"] with
  | some [some name, rename, ascending, descending] => do
      let name ← name.string?
      let renamed? ← Json.slotD (Json.nullable? Json.string?) none rename
      let ascending ← Json.slotD Json.bool? true ascending
      let descending ← Json.slotD Json.bool? true descending
      return ⟨name, renamed?, ascending, descending⟩
  | _ => none

/-- The schema that a document declares. -/
def Schema.ofJson? (j : Json) : Option Schema :=
  match j.slots? ["fields", "order_by", "default_order"] with
  | some [fields, sorts, defaultOrder] => do
      let fields ← Json.slotD (Json.list? FieldEntry.ofJson?) [] fields
      let sorts ← Json.slotD (Json.list? SortEntry.ofJson?) [] sorts
      let defaultOrder? ← Json.slotD (Json.nullable? Json.string?) none defaultOrder
      return ⟨fields, sorts, defaultOrder?⟩
  | _ => none

/-- The schema that a text declares. -/
def Schema.ofText? (text : String) : Option Schema :=
  (Json.parse? text).bind Schema.ofJson?

end FilterQuery
