/-
**Yields: what is read before the first refusal.**

Reading a text gives items in order until the text ends or something in it is refused.  The items
before a refusal are kept.

Main definitions:

* `Yield` — items and the refusal that ends them, if one does;
* `Yield.ofRefusal`, `Yield.prepend` — the two ways in which a yield is built up;
* `Yield.toExcept` — all items, or the refusal.
-/

import FilterQuery.Refusal

set_option relaxedAutoImplicit false
set_option autoImplicit false

namespace FilterQuery

/-- Items in order, and the refusal that ends them. -/
structure Yield (α : Type) where
  items : List α
  refusal? : Option Refusal

namespace Yield

variable {α : Type}

/-- No item and no refusal. -/
def empty : Yield α :=
  ⟨[], none⟩

/-- No item before a refusal. -/
def ofRefusal (r : Refusal) : Yield α :=
  ⟨[], some r⟩

/-- A yield with further items in front. -/
def prepend (items : List α) (y : Yield α) : Yield α :=
  ⟨items ++ y.items, y.refusal?⟩

@[simp] theorem items_prepend (items : List α) (y : Yield α) :
    (y.prepend items).items = items ++ y.items := rfl

@[simp] theorem refusal?_prepend (items : List α) (y : Yield α) :
    (y.prepend items).refusal? = y.refusal? := rfl

/-- All items, or the refusal that ended them. -/
def toExcept (y : Yield α) : Except Refusal (List α) :=
  match y.refusal? with
  | none => .ok y.items
  | some r => .error r

theorem toExcept_eq_ok_iff {y : Yield α} {items : List α} :
    y.toExcept = .ok items ↔ y.refusal? = none ∧ y.items = items := by
  unfold toExcept
  split <;> simp_all

theorem toExcept_eq_error_iff {y : Yield α} {r : Refusal} :
    y.toExcept = .error r ↔ y.refusal? = some r := by
  unfold toExcept
  split <;> simp_all

end Yield

end FilterQuery
