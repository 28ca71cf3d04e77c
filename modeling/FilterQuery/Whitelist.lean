/-
**The whitelist: the registered fields.**

Fields are found by name without regard to case, and no two of them have names that differ in case
alone.

Main definitions:

* `Whitelist` — the registered fields in the order of their registration;
* `Whitelist.find?`, `Whitelist.contains`, `Whitelist.resolve` — looking a name up;
* `Whitelist.add` — registering a field;
* `Registration`, `Whitelist.ofRegistrations` — a declared field with its settings, and the
  whitelist of a list of them;
* `Whitelist.enroll`, `Whitelist.enrollAll` — the whitelist after registrations that it may refuse.

Main results:

* `Whitelist.find?_eq_some_iff` — a name finds the one field with its key;
* `Whitelist.add_eq_error_iff` — a field is refused exactly if its name finds a field;
* `Whitelist.find?_add` — what a name finds after a registration.
-/

import FilterQuery.Field
import FilterQuery.Keyed

set_option relaxedAutoImplicit false
set_option autoImplicit false

namespace FilterQuery

/-- The registered fields in the order of their registration.  No two share a key. -/
structure Whitelist where
  fields : List Field
  nodup_keys : (fields.map Field.key).Nodup

namespace Whitelist

/-- The whitelist without a field. -/
def empty : Whitelist :=
  ⟨[], by simp⟩

instance : EmptyCollection Whitelist := ⟨empty⟩

/-- The number of registered fields. -/
def size (w : Whitelist) : Nat :=
  w.fields.length

/-- The field of a name. -/
def find? (w : Whitelist) (name : String) : Option Field :=
  let key := Text.lower name
  w.fields.find? fun f => f.key == key

/-- Whether a name is the name of a field. -/
def contains (w : Whitelist) (name : String) : Bool :=
  (w.find? name).isSome

/-- The field of a name, or the refusal of the name. -/
def resolve (w : Whitelist) (name : String) : Except Refusal Field :=
  match w.find? name with
  | some f => .ok f
  | none => .error (.unknownField name)

/-- A name finds the one field with its key. -/
theorem find?_eq_some_iff {w : Whitelist} {name : String} {f : Field} :
    w.find? name = some f ↔ f ∈ w.fields ∧ f.key = Text.lower name :=
  List.find?_key_eq_some_iff w.nodup_keys

/-- A name finds nothing exactly if no field has its key. -/
theorem find?_eq_none_iff {w : Whitelist} {name : String} :
    w.find? name = none ↔ ∀ f ∈ w.fields, f.key ≠ Text.lower name := by
  simp [find?]

theorem contains_eq_false_iff {w : Whitelist} {name : String} :
    w.contains name = false ↔ ∀ f ∈ w.fields, f.key ≠ Text.lower name := by
  rw [← find?_eq_none_iff]
  simp [contains]

theorem contains_iff {w : Whitelist} {name : String} :
    w.contains name = true ↔ ∃ f, w.find? name = some f := by
  simp [contains, Option.isSome_iff_exists]

/-! ### Registration -/

/-- The keys stay distinct when a field with a new key comes last. -/
theorem nodup_keys_append {w : Whitelist} {f : Field} (h : w.contains f.name = false) :
    ((w.fields ++ [f]).map Field.key).Nodup :=
  List.nodup_map_append_of_forall_ne w.nodup_keys (contains_eq_false_iff.1 h)

/-- The whitelist with a further field, unless its name is taken. -/
def add (w : Whitelist) (f : Field) : Except Refusal Whitelist :=
  if h : w.contains f.name = false then .ok ⟨w.fields ++ [f], nodup_keys_append h⟩
  else .error (.duplicateField f.name)

/-- A field is refused exactly if its name is taken. -/
theorem add_eq_error_iff {w : Whitelist} {f : Field} {r : Refusal} :
    w.add f = .error r ↔ w.contains f.name = true ∧ r = .duplicateField f.name := by
  unfold add
  split
  · next h => simp [h]
  · next h =>
      simp only [Except.error.injEq]
      constructor
      · rintro rfl
        exact ⟨by simpa using h, rfl⟩
      · rintro ⟨-, rfl⟩
        rfl

/-- A registered field comes last. -/
theorem fields_of_add {w v : Whitelist} {f : Field} (h : w.add f = .ok v) :
    v.fields = w.fields ++ [f] := by
  unfold add at h
  split at h
  · rw [← Except.ok.inj h]
  · exact absurd h (by simp)

/-- After a registration a name finds the new field or what it found before. -/
theorem find?_add {w v : Whitelist} {f : Field} (h : w.add f = .ok v) (name : String) :
    v.find? name = if f.key = Text.lower name then some f else w.find? name := by
  have hc : w.contains f.name = false := by
    unfold add at h
    split at h
    · assumption
    · exact absurd h (by simp)
  rw [contains_eq_false_iff] at hc
  simp only [find?, fields_of_add h, List.find?_append]
  by_cases hk : f.key = Text.lower name
  · have hn : w.fields.find? (fun g => g.key == Text.lower name) = none := by
      rw [List.find?_eq_none]
      intro g hg
      rw [← hk]
      simpa [Field.key] using hc g hg
    simp [hn, hk]
  · simp [hk]

end Whitelist

/-- A field as it is declared: a name, a type and settings. -/
structure Registration where
  name : String
  type : FieldType
  settings : List Setting

/-- The declared field. -/
def Registration.field (r : Registration) : Field :=
  (Field.ofType r.name r.type).configureAll r.settings

/-- The whitelist of the declared fields, registered in order. -/
def Whitelist.ofRegistrations (rs : List Registration) : Except Refusal Whitelist :=
  rs.foldlM (fun w r => w.add r.field) ∅

/-- The whitelist after a registration that it may refuse: a refused one changes nothing. -/
def Whitelist.enroll (w : Whitelist) (r : Registration) : Whitelist :=
  match w.add r.field with
  | .ok v => v
  | .error _ => w

/-- The whitelist after registrations that it may refuse. -/
def Whitelist.enrollAll (w : Whitelist) (rs : List Registration) : Whitelist :=
  rs.foldl enroll w

end FilterQuery
