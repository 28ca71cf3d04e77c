/-
**Notices: what a log records of an operation.**

Registering, parsing and building leave notices.  They are computed beside the operations and never
influence them.

Main definitions:

* `Notice`, `Notice.level`, `Notice.message` — a notice, its level and its wording;
* `Field.noticesOf` — the notices of a setting: one for each part of it that is ignored;
* `Whitelist.registrationNotices`, `Whitelist.parseNotices` — the notices of registering fields
  and of parsing a filter;
* `SortTable.addNotices`, `SortTable.parseNotices` — the same for orderings;
* `Schema.whitelistNotices`, `Schema.sortTableNotices`, `Schema.notices` — the notices of building
  the tables of a schema.
-/

import FilterQuery.Filter
import FilterQuery.Schema

set_option relaxedAutoImplicit false
set_option autoImplicit false

namespace FilterQuery

/-- The level of a notice. -/
inductive Level where
  | warning
  | information
  | detail
deriving DecidableEq

/-- The number of times that a log has to be asked for more before it shows a level. -/
def Level.rank : Level → Nat
  | .warning => 0
  | .information => 1
  | .detail => 2

/-- The name of a level in a log. -/
def Level.label : Level → String
  | .warning => "WARN"
  | .information => "INFO"
  | .detail => "DEBUG"

/-- A record of an operation. -/
inductive Notice where
  /-- A field has been registered. -/
  | fieldRegistered (name : String) (type : FieldType)
  /-- A field that is no text cannot be compared in upper case. -/
  | upperCaseIgnored (name : String) (type : FieldType)
  /-- A field that is no text cannot have string functions. -/
  | functionsIgnored (name : String) (type : FieldType)
  /-- A sortable field has been registered. -/
  | sortFieldRegistered (name : String)
  /-- A filter has been parsed. -/
  | filterParsed (nodes args : Nat) (text : String)
  /-- An ordering has been parsed. -/
  | orderingParsed (input rendered : String)
  /-- The whitelist of a schema has been built. -/
  | whitelistBuilt (fields : Nat)
  /-- The sort table of a schema has been built. -/
  | sortTableBuilt (fields : Nat)
  /-- The demonstration schema stands in for a missing one. -/
  | demoUsed
deriving DecidableEq

namespace Notice

/-- The level of a notice. -/
def level : Notice → Level
  | .upperCaseIgnored _ _ => .warning
  | .functionsIgnored _ _ => .warning
  | .whitelistBuilt _ => .information
  | .sortTableBuilt _ => .information
  | .demoUsed => .information
  | _ => .detail

/-- The wording of a notice. -/
def message : Notice → String
  | .fieldRegistered name type =>
      "registered filter field '" ++ name ++ "' as " ++ type.label
  | .upperCaseIgnored name type =>
      "ignoring upper-casing on " ++ type.label ++ " field '" ++ name ++ "'"
  | .functionsIgnored name type =>
      "ignoring string functions on " ++ type.label ++ " field '" ++ name ++ "'"
  | .sortFieldRegistered name => "registered order-by field '" ++ name ++ "'"
  | .filterParsed nodes args text =>
      "parsed filter into " ++ toString nodes ++ " expressions and " ++ toString args ++
        " arguments: " ++ text
  | .orderingParsed input rendered =>
      "parsed order by '" ++ input ++ "' into '" ++ rendered ++ "'"
  | .whitelistBuilt fields => "built filter parser with " ++ toString fields ++ " fields"
  | .sortTableBuilt fields => "built order-by parser with " ++ toString fields ++ " fields"
  | .demoUsed => "no config file given, using the demo registry"

end Notice

/-! ### Fields and filters -/

/-- Whether some of the given operators are string functions that the type of the field does not
allow. -/
def Field.dropsFunctions (f : Field) (kinds : KindSet) : Bool :=
  KindSet.stringFunction.toList.any fun k => kinds.has k && !f.type.allowedOperators.has k

/-- The notices of a setting. -/
def Field.noticesOf (f : Field) (setting : Setting) : List Notice :=
  let functions (kinds : KindSet) : List Notice :=
    if f.dropsFunctions kinds then [.functionsIgnored f.name f.type] else []
  match setting with
  | .upperCase => if f.type.isString then [] else [.upperCaseIgnored f.name f.type]
  | .supports kinds => functions kinds
  | .onlySupports kinds => functions kinds
  | _ => []

/-- The notices of a field that has been registered, followed by those of its settings. -/
def Registration.notices (r : Registration) : List Notice :=
  .fieldRegistered r.name r.type :: r.settings.flatMap (Field.ofType r.name r.type).noticesOf

namespace Whitelist

/-- The notices of registering fields in order, up to the first one that is refused. -/
def registrationNotices (w : Whitelist) : List Registration → List Notice
  | [] => []
  | r :: rs =>
      match w.add r.field with
      | .ok v => r.notices ++ v.registrationNotices rs
      | .error _ => []

/-- The notices of parsing a filter: one if it has a predicate. -/
def parseNotices (w : Whitelist) (filter : Option String) : List Notice :=
  match filter, w.parse filter with
  | some text, .ok (some p) =>
      [.filterParsed (w.nodes text).items.length p.args.length p.text]
  | _, _ => []

end Whitelist

/-! ### Orderings -/

namespace SortTable

/-- The notices of registering a sortable field. -/
def addNotices (table : SortTable) (f : SortField) : List Notice :=
  match table.add f with
  | .ok _ => [.sortFieldRegistered f.name]
  | .error _ => []

/-- The notices of parsing an ordering: one if there is an ordering. -/
def parseNotices (table : SortTable) (text? : Option String) : List Notice :=
  match text?, table.parse text? with
  | some text, .ok (some rendered) => [.orderingParsed text rendered]
  | _, _ => []

end SortTable

/-! ### Schemas -/

namespace Schema

/-- The notices of registering the fields of entries, up to the first fault, and of having
registered them all. -/
def fieldNotices (w : Whitelist) : List FieldEntry → List Notice
  | [] => [.whitelistBuilt w.size]
  | e :: es =>
      match e.registration, addField w e with
      | .ok r, .ok v => r.notices ++ fieldNotices v es
      | _, _ => []

/-- The notices of building the whitelist of a schema. -/
def whitelistNotices (s : Schema) : List Notice :=
  fieldNotices ∅ s.fields

/-- The notices of registering the sortable fields of entries, up to the first fault, and of having
registered them all. -/
def sortNotices (table : SortTable) : List SortEntry → List Notice
  | [] => [.sortTableBuilt table.fields.length]
  | e :: es =>
      match addSort table e with
      | .ok next => table.addNotices e.field ++ sortNotices next es
      | .error _ => []

/-- The notices of building the sort table of a schema. -/
def sortTableNotices (s : Schema) : List Notice :=
  sortNotices ∅ s.sorts

/-- The notices of building both tables of a schema.  The second one is built only if the first one
is. -/
def notices (s : Schema) : List Notice :=
  match s.whitelist with
  | .ok _ => s.whitelistNotices ++ s.sortTableNotices
  | .error _ => s.whitelistNotices

end Schema

end FilterQuery
