/-
**Fields: what a filter may speak about.**

A field has a name for callers and a target name for the output, a type, the operators it
supports, and the way in which the text of a constant becomes a typed value.  Settings change a
field one after the other; a setting that makes no sense for the type of the field is ignored.

Main definitions:

* `Field` — a field with its settings;
* `Field.ofType` — a field with the defaults of its type;
* `Setting`, `Field.configure` — a change to a field, and the field after it;
* `Field.valueOf?` — the typed value of a constant text;
* `Field.readConstant` — the constant that a token stands for, or the refusal of the token;
* `Field.diagnostic` — the form in which a diagnostic shows a field.

Main results:

* `Field.name_configure`, `Field.type_configure` — settings keep name and type;
* `Field.allowed_covers_supported_configure` — settings keep a field within its type's operators.
-/

import FilterQuery.Token
import FilterQuery.Value

set_option relaxedAutoImplicit false
set_option autoImplicit false

namespace FilterQuery

/-- A field that filters may compare. -/
structure Field where
  /-- The name that callers use. -/
  name : String
  /-- The name that the output uses, if it is another one. -/
  renamed? : Option String
  /-- The type of the values. -/
  type : FieldType
  /-- The operators that may be applied. -/
  supported : KindSet
  /-- Whether both sides are compared in upper case. -/
  ignoreCase : Bool
  /-- Whether a comparison is guarded against null. -/
  checkNotNull : Bool
  /-- The value of a constant text. -/
  convert : String → Option Value
  /-- A last change to a value. -/
  transform : Value → Value

namespace Field

/-- A field with the defaults of its type. -/
def ofType (name : String) (type : FieldType) : Field where
  name := name
  renamed? := none
  type := type
  supported := type.defaultOperators
  ignoreCase := false
  checkNotNull := false
  convert := Value.read? type
  transform := id

/-- The name that the output uses. -/
def target (f : Field) : String :=
  f.renamed?.getD f.name

/-- The form of the name under which the field is found: case does not matter. -/
def key (f : Field) : String :=
  Text.lower f.name

/-- The given operators as far as the type of the field allows them. -/
def allowed (f : Field) (kinds : KindSet) : KindSet :=
  kinds.inter f.type.allowedOperators

end Field

/-! ### Settings -/

/-- A change to a field. -/
inductive Setting where
  /-- Use another name in the output. -/
  | rename (target : String)
  /-- Compare in upper case.  Ignored by fields that are not texts. -/
  | upperCase
  /-- Guard comparisons against null. -/
  | notNull
  /-- Support further operators, as far as the type allows them. -/
  | supports (kinds : KindSet)
  /-- Support these operators alone, as far as the type allows them. -/
  | onlySupports (kinds : KindSet)
  /-- Convert constant texts in another way. -/
  | converter (convert : String → Option Value)
  /-- Change values after their conversion. -/
  | transform (change : Value → Value)

namespace Field

/-- The field after a setting. -/
def configure (f : Field) : Setting → Field
  | .rename target => { f with renamed? := some target }
  | .upperCase => if f.type.isString then { f with ignoreCase := true } else f
  | .notNull => { f with checkNotNull := true }
  | .supports kinds => { f with supported := f.supported.union (f.allowed kinds) }
  | .onlySupports kinds => { f with supported := f.allowed kinds }
  | .converter convert => { f with convert := convert }
  | .transform change => { f with transform := change }

/-- The field after a sequence of settings. -/
def configureAll (f : Field) (settings : List Setting) : Field :=
  settings.foldl configure f

@[simp] theorem name_configure (f : Field) (s : Setting) : (f.configure s).name = f.name := by
  cases s <;> simp only [configure]
  split <;> rfl

@[simp] theorem type_configure (f : Field) (s : Setting) : (f.configure s).type = f.type := by
  cases s <;> simp only [configure]
  split <;> rfl

@[simp] theorem name_configureAll (f : Field) (settings : List Setting) :
    (f.configureAll settings).name = f.name := by
  induction settings generalizing f with
  | nil => rfl
  | cons s settings ih => exact (ih (f.configure s)).trans (name_configure f s)

@[simp] theorem type_configureAll (f : Field) (settings : List Setting) :
    (f.configureAll settings).type = f.type := by
  induction settings generalizing f with
  | nil => rfl
  | cons s settings ih => exact (ih (f.configure s)).trans (type_configure f s)

/-- A setting keeps the supported operators within those that the type allows. -/
theorem allowed_covers_supported_configure (f : Field) (s : Setting)
    (h : f.type.allowedOperators.covers f.supported = true) :
    f.type.allowedOperators.covers (f.configure s).supported = true := by
  rw [KindSet.covers_iff] at h ⊢
  cases s <;> simp only [configure]
  case supports kinds =>
      intro k hk
      rcases KindSet.mem_union.1 hk with hk | hk
      · exact h k hk
      · exact (KindSet.mem_inter.1 hk).2
  case onlySupports kinds =>
      intro k hk
      exact (KindSet.mem_inter.1 hk).2
  case upperCase =>
      split <;> exact h
  all_goals exact h

/-! ### Constants -/

/-- A text in upper case, and any other value as it is. -/
def upperText : Value → Value
  | .string (some s) => .string (some (Text.upper s))
  | v => v

/-- The typed value of a constant text.  Upper-casing works on the converted text, and the last
change sees its result. -/
def valueOf? (f : Field) (text : String) : Option Value :=
  (f.convert text).map fun v => f.transform (if f.ignoreCase then upperText v else v)

/-- Whether the field takes constants of the given kinds. -/
def acceptsConstant (f : Field) (kinds : KindSet) : Bool :=
  f.type.constantKinds.covers kinds

/-- Whether the field supports the given operators. -/
def supports (f : Field) (kinds : KindSet) : Bool :=
  f.supported.covers kinds

end Field

/-- A checked constant. -/
inductive Constant where
  | null
  | value (v : Value)
deriving DecidableEq

namespace Field

/-- The refusal of a constant. -/
def invalidValue (f : Field) (t : Token) : Refusal :=
  .invalidValue f.name t.text

/-- The constant that a token stands for.  The null word is a constant only where nulls are
allowed, and the quotes of a literal do not belong to its value. -/
def readConstant (f : Field) (allowNull : Bool) (t : Token) : Except Refusal Constant :=
  if !t.isOf .constant then .error t.misplaced
  else if !f.acceptsConstant t.kinds || (t.is .nullWord && !allowNull) then
    .error (f.invalidValue t)
  else if t.is .nullWord then .ok .null
  -- Every other constant stands for a text that the field has to convert.
  else
    match f.valueOf? (if t.is .literal then t.literalValue else t.text) with
    | some v => .ok (.value v)
    | none => .error (f.invalidValue t)

/-! ### Diagnostics -/

/-- The form in which a diagnostic shows a field. -/
def diagnostic (f : Field) : String :=
  let renamed :=
    match f.renamed? with
    | some target => "Some(" ++ Text.escaped target ++ ")"
    | none => "None"
  let entries :=
    [("name", Text.escaped f.name), ("override_name", renamed), ("field_type", f.type.label),
      ("supported_kinds", f.supported.diagnostic), ("ignore_case", toString f.ignoreCase),
      ("check_not_null", toString f.checkNotNull)]
  let body := ", ".intercalate (entries.map fun e => e.1 ++ ": " ++ e.2)
  "FieldConfig \x7b " ++ body ++ ", .. \x7d"

end Field

end FilterQuery
