/-
**Filters: from text to predicate.**

Main definitions:

* `Whitelist.nodes` — the nodes of a filter, up to the first refusal;
* `Whitelist.parse` — the predicate of a filter, none if it is missing or blank.

Main results:

* `Whitelist.parse_none`, `Whitelist.parse_of_blank` — a missing or blank filter has no predicate.
-/

import FilterQuery.Grammar
import FilterQuery.Token.Scan

set_option relaxedAutoImplicit false
set_option autoImplicit false

namespace FilterQuery

/-- The predicate that a sequence of nodes writes. -/
def Predicate.ofNodes (nodes : List Node) : Predicate :=
  Predicate.empty.write (nodes.flatMap Node.pieces)

namespace Whitelist

/-- The nodes of a filter, up to the first refusal. -/
def nodes (w : Whitelist) (filter : String) : Yield Node :=
  let tokens := w.scan filter
  Progress.initial.run w tokens.refusal? tokens.items

/-- The predicate of a filter, none if it is missing or blank. -/
def parse (w : Whitelist) (filter : Option String) : Except Refusal (Option Predicate) :=
  match filter with
  | none => .ok none
  | some text =>
      if Text.isBlankText text then .ok none
      else (w.nodes text).toExcept.map fun ns => some (.ofNodes ns)

/-- A missing filter has no predicate. -/
@[simp] theorem parse_none (w : Whitelist) : w.parse none = .ok none := rfl

/-- A blank filter has no predicate. -/
theorem parse_of_blank (w : Whitelist) {text : String} (h : Text.isBlankText text = true) :
    w.parse (some text) = .ok none := by
  simp [parse, h]

end Whitelist

end FilterQuery
