/-
**Whitelists that are built in place.**

`Whitelist.add` registers a field that has all its settings.  A caller works in smaller steps: a
field is put into the whitelist as it is, its registration gives a reference to it, and every
setting changes the field through that reference, in the whitelist and beside all other fields.  A
registration that is refused gives no reference, so the settings that were to follow it are left
out, and the next registration goes on with whatever the refused one has left behind.

Main definitions:

* `Enrolment` — a field, and the settings that follow its registration;
* `Whitelist.insert`, `Whitelist.configureAt`, `Whitelist.enter` — registering a field, changing a
  field in place, and an enrolment as a whole;
* `Whitelist.enterAll`, `Whitelist.entered` — the whitelist after a history of enrolments, and the
  enrolments that it has accepted.
-/

import FilterQuery.Whitelist

set_option relaxedAutoImplicit false
set_option autoImplicit false

namespace FilterQuery

/-! ### Enrolments -/

/-- A field that is registered, and the settings that follow through the reference to it. -/
structure Enrolment where
  field : Field
  settings : List Setting

namespace Enrolment

/-- The form of the name under which the field is found. -/
def key (e : Enrolment) : String :=
  e.field.key

/-- The field with its own settings. -/
def configured (e : Enrolment) : Field :=
  e.field.configureAll e.settings

end Enrolment

/-- A declared field enters with the defaults of its type, and its settings follow. -/
def Registration.enrolment (r : Registration) : Enrolment :=
  ⟨.ofType r.name r.type, r.settings⟩

@[simp] theorem Field.key_configure (f : Field) (s : Setting) : (f.configure s).key = f.key := by
  rw [key, key, name_configure]

@[simp] theorem Enrolment.name_configured (e : Enrolment) : e.configured.name = e.field.name :=
  e.field.name_configureAll e.settings

@[simp] theorem Enrolment.key_configured (e : Enrolment) : e.configured.key = e.key := by
  rw [Field.key, name_configured]
  rfl

/-! ### Changes in place -/

namespace Whitelist

/-- The whitelist after a setting of the field with a key. -/
def configureAt (w : Whitelist) (key : String) (s : Setting) : Whitelist where
  fields := w.fields.map fun f => if f.key = key then f.configure s else f
  nodup_keys := by
    have hkeys : (Field.key ∘ fun f => if f.key = key then f.configure s else f) = Field.key := by
      funext f
      rw [Function.comp_apply]
      split
      · exact f.key_configure s
      · rfl
    rw [List.map_map, hkeys]
    exact w.nodup_keys

/-- Registers a field, and gives the key under which it can be reached. -/
def insert (f : Field) : EStateM Refusal Whitelist String := do
  let w ← get
  let v ← ofExcept (w.add f)
  set v
  return f.key

/-- Registers a field, and applies the settings that follow one after the other. -/
def enter (e : Enrolment) : EStateM Refusal Whitelist Unit := do
  let key ← insert e.field
  e.settings.forM fun s => modify fun w => w.configureAt key s

/-- The whitelist after a history of enrolments, each of which may be refused. -/
def enterAll (w : Whitelist) : List Enrolment → Whitelist
  | [] => w
  | e :: es =>
      match (enter e).run w with
      | .ok _ v => v.enterAll es
      | .error _ v => v.enterAll es

/-- The enrolments of a history that are not refused, in order. -/
def entered (w : Whitelist) : List Enrolment → List Enrolment
  | [] => []
  | e :: es =>
      match (enter e).run w with
      | .ok _ v => e :: v.entered es
      | .error _ v => v.entered es

end Whitelist

end FilterQuery
