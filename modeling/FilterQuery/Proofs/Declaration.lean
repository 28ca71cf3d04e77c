/-
**A schema is applied as it stands, or rejected at its first fault.**

Two sets of rules meet in a schema.  Its entries are checked strictly: an option or an operator that
the type of a field does not allow is a fault.  Its settings are then applied through
`Field.configure`, which leaves out silently what the type does not allow.  The checks come first
and are at least as strict, so nothing is ever left out: the field of an accepted entry has exactly
the options of the entry.  Which entry is at fault, and with which of its faults, is a matter of
order alone.

Main definitions:

* `Kind.IsOperator` — the operator that a word names;
* `FieldEntry.IsValid`, `FieldEntry.Faulty` — the entries without a fault, and the first fault of an
  entry;
* `FieldEntry.Declares` — the field that an entry asks for;
* `FieldEntry.AreValid`, `Schema.RejectedWith` — the same for the entries of a schema.

Main results:

* `Kind.ofOperator?_eq_some_iff_isOperator` — operators are named in any case;
* `FieldEntry.exists_registration_iff`, `FieldEntry.registration_eq_error_iff` — the checks of an
  entry;
* `FieldEntry.declares_of_registration` — no option of a checked entry is left out;
* `Schema.foldlM_addField_eq_ok_iff` — the entries of a schema are registered in order;
* `Schema.fields_enterAll_of_whitelist` — which comes to the same as building it in place;
* `Schema.whitelist_applies_or_rejects` — **a schema is applied exactly or rejected at its first
  fault**.
-/

import FilterQuery.Proofs.FirstFault
import FilterQuery.Proofs.FirstWins
import FilterQuery.Proofs.Vocabulary
import FilterQuery.Schema

set_option relaxedAutoImplicit false
set_option autoImplicit false

namespace FilterQuery

/-! ### Operators -/

/-- The word names the operator, a comparison or a string function, in any case. -/
structure Kind.IsOperator (k : Kind) (word : String) : Prop where
  mem : k ∈ KindSet.comparison ∨ k ∈ KindSet.stringFunction
  caseVariant : Text.CaseVariant word.toList k.spelling.toList

instance (k : Kind) (word : String) : Decidable (k.IsOperator word) :=
  decidable_of_iff ((k ∈ KindSet.comparison ∨ k ∈ KindSet.stringFunction) ∧
      Text.CaseVariant word.toList k.spelling.toList)
    ⟨fun h => ⟨h.1, h.2⟩, fun h => ⟨h.mem, h.caseVariant⟩⟩

/-- Operators are named in any case. -/
theorem Kind.ofOperator?_eq_some_iff_isOperator {k : Kind} {word : String} :
    ofOperator? word = some k ↔ k.IsOperator word := by
  have hkeyword : k ∈ KindSet.comparison ∨ k ∈ KindSet.stringFunction →
      k ∈ keywords.map Prod.snd := by
    cases k <;> decide
  rw [ofOperator?_eq_some_iff, ofKeyword?_eq_some_iff]
  constructor
  · rintro ⟨⟨-, hword⟩, hk⟩
    exact ⟨hk, hword⟩
  · rintro ⟨hk, hword⟩
    exact ⟨⟨hkeyword hk, hword⟩, hk⟩

theorem Kind.isOperator_iff_eq {k l : Kind} {word : String} (h : ofOperator? word = some l) :
    k.IsOperator word ↔ l = k := by
  rw [← ofOperator?_eq_some_iff_isOperator, h, Option.some.injEq]

theorem Kind.IsOperator.unique {k l : Kind} {word : String} (hk : k.IsOperator word)
    (hl : l.IsOperator word) : k = l :=
  (isOperator_iff_eq (ofOperator?_eq_some_iff_isOperator.2 hk)).1 hl

theorem Kind.ofOperator?_eq_none_iff {word : String} :
    ofOperator? word = none ↔ ∀ k : Kind, ¬k.IsOperator word := by
  simp only [← ofOperator?_eq_some_iff_isOperator, Option.eq_none_iff_forall_ne_some, ne_eq]

/-- The types allow every comparison, and string functions for texts alone. -/
theorem FieldType.mem_allowedOperators_iff {t : FieldType} {k : Kind}
    (hk : k ∈ KindSet.comparison ∨ k ∈ KindSet.stringFunction) :
    k ∈ t.allowedOperators ↔ (k ∈ KindSet.stringFunction → t = .string) := by
  have hdisjoint : k ∈ KindSet.stringFunction → k ∉ KindSet.comparison := by
    cases k <;> decide
  cases t with
  | string => simpa [allowedOperators] using hk
  | _ =>
      simp only [allowedOperators, reduceCtorEq, imp_false]
      exact ⟨fun hcmp hfn => hdisjoint hfn hcmp, fun hfn => hk.resolve_right hfn⟩

/-! ### Entries -/

namespace FieldEntry

variable {e : FieldEntry} {o : String} {k : Kind} {kinds? : Option (List Kind)} {f : Field}
  {fault : SchemaFault}

/-- The form of the name under which the field is found. -/
def key (e : FieldEntry) : String :=
  Text.lower e.name

/-- The listed operators, none if there is no list. -/
def listed (e : FieldEntry) : List String :=
  e.operators?.getD []

/-- The operator may be listed: it is a comparison, or a string function for a text. -/
def Permits (e : FieldEntry) (operator : String) : Prop :=
  ∃ k : Kind, k.IsOperator operator ∧ (k ∈ KindSet.stringFunction → e.type = .string)

instance (e : FieldEntry) (operator : String) : Decidable (e.Permits operator) :=
  decidable_of_iff (∃ k ∈ Kind.all, k.IsOperator operator ∧
      (k ∈ KindSet.stringFunction → e.type = .string))
    ⟨fun ⟨k, _, h⟩ => ⟨k, h⟩, fun ⟨k, h⟩ => ⟨k, k.mem_all, h⟩⟩

/-- The entry has no fault of its own. -/
structure IsValid (e : FieldEntry) : Prop where
  ignoreCase : e.ignoreCase = true → e.type = .string
  listed : ∀ o ∈ e.listed, e.Permits o

instance (e : FieldEntry) : Decidable e.IsValid :=
  decidable_of_iff ((e.ignoreCase = true → e.type = .string) ∧ ∀ o ∈ e.listed, e.Permits o)
    ⟨fun h => ⟨h.1, h.2⟩, fun h => ⟨h.ignoreCase, h.listed⟩⟩

/-- The entry has a fault of its own, and this is its first one: case is checked before the
operators, and the operators are checked in order. -/
inductive Faulty (e : FieldEntry) : SchemaFault → Prop where
  | ignoreCase : e.ignoreCase = true → e.type ≠ .string →
      Faulty e (.stringOnly e.name e.type "ignore_case")
  | unknownOperator {before after : List String} {o : String} :
      (e.ignoreCase = true → e.type = .string) → e.listed = before ++ o :: after →
      (∀ p ∈ before, e.Permits p) → (∀ k : Kind, ¬k.IsOperator o) →
      Faulty e (.unknownOperator e.name o)
  | stringFunction {before after : List String} {o : String} {k : Kind} :
      (e.ignoreCase = true → e.type = .string) → e.listed = before ++ o :: after →
      (∀ p ∈ before, e.Permits p) → k.IsOperator o → k ∈ KindSet.stringFunction →
      e.type ≠ .string → Faulty e (.stringOnly e.name e.type o)

/-- The field has the options of the entry and no others: it supports exactly the listed operators,
or those of its type if there is no list. -/
structure Declares (e : FieldEntry) (f : Field) : Prop where
  name : f.name = e.name
  type : f.type = e.type
  target : f.target = e.renamed?.getD e.name
  ignoreCase : f.ignoreCase = e.ignoreCase
  checkNotNull : f.checkNotNull = e.checkNotNull
  supported_default : e.operators? = none → f.supported = e.type.defaultOperators
  supported_listed : ∀ os, e.operators? = some os →
    ∀ k, k ∈ f.supported ↔ ∃ o ∈ os, k.IsOperator o
  convert : f.convert = Value.read? e.type
  transform : f.transform = id

/-- The entries are valid and no two of them share a name. -/
structure AreValid (es : List FieldEntry) : Prop where
  isValid : ∀ e ∈ es, e.IsValid
  nodup_keys : (es.map key).Nodup

instance (es : List FieldEntry) : Decidable (AreValid es) :=
  decidable_of_iff ((∀ e ∈ es, e.IsValid) ∧ (es.map key).Nodup)
    ⟨fun h => ⟨h.1, h.2⟩, fun h => ⟨h.isValid, h.nodup_keys⟩⟩

/-! ### Checks -/

theorem operatorKind_eq_ok_iff :
    e.operatorKind o = .ok k ↔
      k.IsOperator o ∧ (k ∈ KindSet.stringFunction → e.type = .string) := by
  unfold operatorKind
  cases hword : Kind.ofOperator? o with
  | none => simp [Kind.ofOperator?_eq_none_iff.1 hword k]
  | some l =>
      have hl : l.IsOperator o := Kind.ofOperator?_eq_some_iff_isOperator.1 hword
      rw [Kind.isOperator_iff_eq hword]
      simp only [FieldType.mem_allowedOperators_iff hl.mem]
      split
      · next hallowed =>
          rw [Except.ok.injEq]
          exact ⟨fun h => ⟨h, h ▸ hallowed⟩, And.left⟩
      · next hrefused =>
          constructor
          · intro h
            contradiction
          · rintro ⟨rfl, hallowed⟩
            exact absurd hallowed hrefused

theorem exists_operatorKind_iff : (∃ k, e.operatorKind o = .ok k) ↔ e.Permits o := by
  simp only [operatorKind_eq_ok_iff, Permits]

theorem operatorKind_eq_error_iff :
    e.operatorKind o = .error fault ↔
      (∀ k : Kind, ¬k.IsOperator o) ∧ fault = .unknownOperator e.name o ∨
        (∃ k : Kind, k.IsOperator o ∧ k ∈ KindSet.stringFunction) ∧ e.type ≠ .string ∧
          fault = .stringOnly e.name e.type o := by
  unfold operatorKind
  cases hword : Kind.ofOperator? o with
  | none =>
      have hnone := Kind.ofOperator?_eq_none_iff.1 hword
      simp [hnone, eq_comm]
  | some l =>
      have hl : l.IsOperator o := Kind.ofOperator?_eq_some_iff_isOperator.1 hword
      simp only [FieldType.mem_allowedOperators_iff hl.mem, Kind.isOperator_iff_eq hword]
      by_cases hfn : l ∈ KindSet.stringFunction <;> by_cases htype : e.type = .string <;>
        simp [hfn, htype, stringOnly, eq_comm]

theorem operatorKinds_of_ignoreCase (hcase : ¬(e.ignoreCase = true → e.type = .string)) :
    e.operatorKinds = .error (.stringOnly e.name e.type "ignore_case") := by
  rw [Classical.not_imp, ← FieldType.isString_iff, Bool.not_eq_true] at hcase
  exact if_pos ⟨hcase.1, by rw [hcase.2, Bool.not_false]⟩

theorem operatorKinds_of_not_ignoreCase (hcase : e.ignoreCase = true → e.type = .string) :
    e.operatorKinds =
      match e.operators? with
      | none => .ok none
      | some os => (os.mapM e.operatorKind).map some := by
  refine if_neg fun h => ?_
  rw [FieldType.isString_iff.2 (hcase h.1)] at h
  exact absurd h.2 (by decide)

/-- An entry is accepted exactly if it is valid. -/
theorem exists_registration_iff : (∃ r, e.registration = .ok r) ↔ e.IsValid := by
  simp only [registration, exists_map_eq_ok_iff]
  by_cases hcase : e.ignoreCase = true → e.type = .string
  · have hvalid : e.IsValid ↔ ∀ o ∈ e.listed, ∃ k, e.operatorKind o = .ok k := by
      simp only [exists_operatorKind_iff]
      exact ⟨IsValid.listed, fun h => ⟨hcase, h⟩⟩
    rw [hvalid, operatorKinds_of_not_ignoreCase hcase, FieldEntry.listed]
    cases e.operators? with
    | none => simp
    | some os =>
        dsimp only
        rw [exists_map_eq_ok_iff, exists_mapM_eq_ok_iff, Option.getD_some]
  · rw [operatorKinds_of_ignoreCase hcase]
    constructor
    · rintro ⟨_, h⟩
      contradiction
    · intro h
      exact absurd h.ignoreCase hcase

/-- An entry is refused with its first fault. -/
theorem registration_eq_error_iff : e.registration = .error fault ↔ e.Faulty fault := by
  rw [registration, map_eq_error_iff]
  by_cases hcase : e.ignoreCase = true → e.type = .string
  · have hlisted : e.operatorKinds = .error fault ↔ ∃ before o after,
        e.listed = before ++ o :: after ∧ (∀ p ∈ before, e.Permits p) ∧
          e.operatorKind o = .error fault := by
      rw [operatorKinds_of_not_ignoreCase hcase, FieldEntry.listed]
      cases e.operators? with
      | none => simp
      | some os =>
          simp only [Option.getD_some, map_eq_error_iff, mapM_eq_error_iff, exists_operatorKind_iff]
    rw [hlisted]
    constructor
    · rintro ⟨before, o, after, ho, hbefore, hfault⟩
      rcases operatorKind_eq_error_iff.1 hfault with ⟨hnone, rfl⟩ | ⟨⟨k, hk, hfn⟩, htype, rfl⟩
      · exact .unknownOperator hcase ho hbefore hnone
      · exact .stringFunction hcase ho hbefore hk hfn htype
    · intro h
      cases h with
      | ignoreCase hon htype => exact absurd (hcase hon) htype
      | unknownOperator _ ho hbefore hnone =>
          exact ⟨_, _, _, ho, hbefore, operatorKind_eq_error_iff.2 (.inl ⟨hnone, rfl⟩)⟩
      | stringFunction _ ho hbefore hk hfn htype =>
          exact ⟨_, _, _, ho, hbefore,
            operatorKind_eq_error_iff.2 (.inr ⟨⟨_, hk, hfn⟩, htype, rfl⟩)⟩
  · rw [operatorKinds_of_ignoreCase hcase, Except.error.injEq]
    constructor
    · rintro rfl
      obtain ⟨hon, htype⟩ := Classical.not_imp.1 hcase
      exact .ignoreCase hon htype
    · intro h
      cases h with
      | ignoreCase => rfl
      | unknownOperator hcase' => exact absurd hcase' hcase
      | stringFunction hcase' => exact absurd hcase' hcase

/-! ### Options -/

/-- The settings of an entry one after the other: none is ignored but what the operators are cut
down to. -/
theorem configureAll_settings (hcase : e.ignoreCase = true → e.type = .string) :
    (Field.ofType e.name e.type).configureAll (e.settings kinds?) =
      { Field.ofType e.name e.type with
        renamed? := e.renamed?
        ignoreCase := e.ignoreCase
        checkNotNull := e.checkNotNull
        supported :=
          match kinds? with
          | none => e.type.defaultOperators
          | some ks => (KindSet.ofList ks).inter e.type.allowedOperators } := by
  obtain ⟨name, renamed?, type, ignoreCase, checkNotNull, operators?⟩ := e
  have hupper : ignoreCase = true → type.isString = true :=
    fun h => FieldType.isString_iff.2 (hcase h)
  cases renamed? <;> cases kinds? <;> cases ignoreCase <;> cases checkNotNull <;>
    simp_all [settings, Field.configureAll, Field.configure, Field.ofType, Field.allowed]

/-- No option of a checked entry is left out. -/
theorem declares_of_registration {r : Registration} (h : e.registration = .ok r) :
    e.Declares r.field := by
  have hvalid : e.IsValid := exists_registration_iff.1 ⟨r, h⟩
  obtain ⟨kinds?, hkinds, rfl⟩ := map_eq_ok_iff.1 h
  rw [operatorKinds_of_not_ignoreCase hvalid.ignoreCase] at hkinds
  rw [Registration.field, configureAll_settings hvalid.ignoreCase]
  refine ⟨rfl, rfl, rfl, rfl, rfl, fun hnone => ?_, fun os hos k => ?_, rfl, rfl⟩
  · rw [hnone] at hkinds
    obtain rfl := Except.ok.inj hkinds
    rfl
  · rw [hos] at hkinds
    obtain ⟨ks, hks, rfl⟩ := map_eq_ok_iff.1 hkinds
    have hmem := mem_iff_of_mapM_eq_ok hks k
    simp only [operatorKind_eq_ok_iff] at hmem
    rw [KindSet.mem_inter, KindSet.mem_ofList, hmem]
    constructor
    · rintro ⟨⟨o, ho, hk, -⟩, -⟩
      exact ⟨o, ho, hk⟩
    · rintro ⟨o, ho, hk⟩
      -- The entry is valid, so what it lists is allowed.
      obtain ⟨l, hl, hallowed⟩ := hvalid.listed o (by rw [FieldEntry.listed, hos]; exact ho)
      obtain rfl := hl.unique hk
      exact ⟨⟨o, ho, hk, hallowed⟩, (FieldType.mem_allowedOperators_iff hk.mem).2 hallowed⟩

end FieldEntry

/-! ### Schemas -/

namespace Schema

variable {s : Schema} {es : List FieldEntry} {e : FieldEntry} {w v : Whitelist}
  {fault : SchemaFault}

/-- The schema has a fault, and this is its first one: it belongs to an entry behind others that
have none, and the entry is checked by itself before its name is looked for among theirs. -/
inductive RejectedWith (s : Schema) : SchemaFault → Prop where
  | faulty {before after : List FieldEntry} {e : FieldEntry} {fault : SchemaFault} :
      s.fields = before ++ e :: after → FieldEntry.AreValid before → e.Faulty fault →
      RejectedWith s fault
  | duplicate {before after : List FieldEntry} {e : FieldEntry} :
      s.fields = before ++ e :: after → FieldEntry.AreValid before → e.IsValid →
      e.key ∈ before.map FieldEntry.key →
      RejectedWith s (.registration (.duplicateField e.name))

theorem addField_eq_ok_iff :
    addField w e = .ok v ↔ ∃ r, e.registration = .ok r ∧ w.add r.field = .ok v := by
  rw [addField, bind_eq_ok_iff]
  refine exists_congr fun r => and_congr_right fun _ => ?_
  cases w.add r.field <;> simp [Except.mapError]

theorem addField_eq_error_iff :
    addField w e = .error fault ↔ e.Faulty fault ∨ e.IsValid ∧ w.contains e.name = true ∧
      fault = .registration (.duplicateField e.name) := by
  rw [addField, bind_eq_error_iff, FieldEntry.registration_eq_error_iff,
    ← FieldEntry.exists_registration_iff]
  refine or_congr_right ?_
  -- The name is taken or free whatever the operators of the entry are.
  have hrefused : ∀ r, e.registration = .ok r →
      ((w.add r.field).mapError SchemaFault.registration = .error fault ↔
        w.contains e.name = true ∧ fault = .registration (.duplicateField e.name)) := by
    intro r hr
    rw [← (FieldEntry.declares_of_registration hr).name]
    cases hadd : w.add r.field with
    | ok v =>
        rw [(Whitelist.add_eq_ok_iff.1 hadd).1]
        simp [Except.mapError]
    | error r' =>
        obtain ⟨htaken, rfl⟩ := Whitelist.add_eq_error_iff.1 hadd
        simp [Except.mapError, htaken, eq_comm]
  constructor
  · rintro ⟨r, hr, hfault⟩
    exact ⟨⟨r, hr⟩, (hrefused r hr).1 hfault⟩
  · rintro ⟨⟨r, hr⟩, hfault⟩
    exact ⟨r, hr, (hrefused r hr).2 hfault⟩

/-- The entries of a schema are registered in order: each comes to its field, and the whitelist
holds these fields. -/
theorem foldlM_addField_eq_ok_iff :
    es.foldlM addField w = .ok v ↔
      ∃ rs, es.mapM FieldEntry.registration = .ok rs ∧
        v.fields = w.fields ++ rs.map Registration.field := by
  induction es generalizing w with
  | nil =>
      obtain ⟨fields, hnodup⟩ := v
      constructor
      · intro h
        obtain rfl := Except.ok.inj h
        exact ⟨[], rfl, (List.append_nil _).symm⟩
      · rintro ⟨rs, hrs, hfields⟩
        obtain rfl := Except.ok.inj hrs
        obtain rfl : fields = w.fields := hfields.trans (List.append_nil _)
        rfl
  | cons e es ih =>
      have hcons : (e :: es).foldlM addField w =
          (addField w e).bind fun u => es.foldlM addField u := List.foldlM_cons
      rw [hcons, bind_eq_ok_iff]
      simp only [addField_eq_ok_iff, ih, mapM_cons_eq, bind_eq_ok_iff, map_eq_ok_iff]
      constructor
      · rintro ⟨u, ⟨r, hr, hadd⟩, rs, hrs, hfields⟩
        refine ⟨r :: rs, ⟨r, hr, rs, hrs, rfl⟩, ?_⟩
        rw [hfields, Whitelist.fields_of_add hadd, List.append_assoc]
        rfl
      · rintro ⟨_, ⟨r, hr, rs, hrs, rfl⟩, hfields⟩
        -- The keys of the whole whitelist are distinct, so those of its beginning are.
        have hnodup : ((w.fields ++ [r.field]).map Field.key).Nodup := by
          have hall := v.nodup_keys
          rw [hfields, List.map_cons, List.append_cons, List.map_append] at hall
          exact (List.nodup_append.1 hall).1
        have hfree : w.contains r.field.name = false := by
          rw [Whitelist.contains_eq_false_iff]
          rw [List.map_append, List.map_singleton, List.nodup_append] at hnodup
          exact fun f hf => hnodup.2.2 _ (List.mem_map_of_mem hf) _ List.mem_cons_self
        refine ⟨⟨_, hnodup⟩, ⟨r, hr, Whitelist.add_eq_ok_iff.2 ⟨hfree, rfl⟩⟩, rs, hrs, ?_⟩
        rw [hfields, List.map_cons, List.append_cons]

/-- Each field has the options of its entry. -/
theorem forall₂_declares {rs : List Registration}
    (h : es.mapM FieldEntry.registration = .ok rs) :
    List.Forall₂ FieldEntry.Declares es (rs.map Registration.field) := by
  rw [List.forall₂_map_right_iff]
  exact (mapM_eq_ok_iff.1 h).imp fun _ _ hr => FieldEntry.declares_of_registration hr

theorem map_key_eq {fs : List Field} (h : List.Forall₂ FieldEntry.Declares es fs) :
    fs.map Field.key = es.map FieldEntry.key := by
  induction h with
  | nil => rfl
  | @cons e f es fs hf _ ih =>
      rw [List.map_cons, List.map_cons, ih, Field.key, hf.name, FieldEntry.key]

/-- Entries without a fault come to a whitelist, and only they do. -/
theorem exists_foldlM_addField_iff :
    (∃ w, es.foldlM addField ∅ = .ok w) ↔ FieldEntry.AreValid es := by
  constructor
  · rintro ⟨w, hw⟩
    obtain ⟨rs, hrs, hfields⟩ := foldlM_addField_eq_ok_iff.1 hw
    refine ⟨fun e he => ?_, ?_⟩
    · exact FieldEntry.exists_registration_iff.1 (exists_mapM_eq_ok_iff.1 ⟨rs, hrs⟩ e he)
    · have hnodup := w.nodup_keys
      rw [hfields] at hnodup
      rwa [← map_key_eq (forall₂_declares hrs)]
  · intro h
    obtain ⟨rs, hrs⟩ := exists_mapM_eq_ok_iff.2
      fun e he => FieldEntry.exists_registration_iff.2 (h.isValid e he)
    have hnodup := h.nodup_keys
    rw [← map_key_eq (forall₂_declares hrs)] at hnodup
    exact ⟨⟨_, hnodup⟩, foldlM_addField_eq_ok_iff.2 ⟨rs, hrs, rfl⟩⟩

/-- Through references the whitelist of a schema is built as it is from registrations as a whole:
the entries of an accepted schema are all enrolled, each with its own settings. -/
theorem fields_enterAll_of_whitelist (h : s.whitelist = .ok w) :
    ∃ rs, s.fields.mapM FieldEntry.registration = .ok rs ∧
      ((∅ : Whitelist).enterAll (rs.map Registration.enrolment)).fields = w.fields := by
  obtain ⟨rs, hrs, hfields⟩ := foldlM_addField_eq_ok_iff.1 h
  have hconfigured : (rs.map Registration.enrolment).map Enrolment.configured = w.fields := by
    rw [hfields, List.map_map]
    rfl
  have hnodup : ((rs.map Registration.enrolment).map Enrolment.key).Nodup := by
    rw [← Whitelist.map_key_configured, hconfigured]
    exact w.nodup_keys
  refine ⟨rs, hrs, ?_⟩
  rw [Whitelist.fields_enterAll_empty, Whitelist.entered_eq_of_nodup _ hnodup, hconfigured]
  exact fun _ _ f hf => absurd hf List.not_mem_nil

/-- A name is taken exactly if an entry before has it. -/
theorem contains_iff_of_foldlM_addField (h : es.foldlM addField ∅ = .ok w) (e : FieldEntry) :
    w.contains e.name = true ↔ e.key ∈ es.map FieldEntry.key := by
  obtain ⟨rs, hrs, hfields⟩ := foldlM_addField_eq_ok_iff.1 h
  rw [← map_key_eq (forall₂_declares hrs), Whitelist.contains_iff, List.mem_map]
  simp only [Whitelist.find?_eq_some_iff, hfields]
  rfl

/-- A schema is rejected with its first fault. -/
theorem whitelist_eq_error_iff : s.whitelist = .error fault ↔ s.RejectedWith fault := by
  rw [whitelist, foldlM_eq_error_iff]
  simp only [addField_eq_error_iff]
  constructor
  · rintro ⟨before, e, after, c, hfields, hc, hfault⟩
    have hbefore := exists_foldlM_addField_iff.1 ⟨c, hc⟩
    rcases hfault with hfault | ⟨hvalid, hname, rfl⟩
    · exact .faulty hfields hbefore hfault
    · exact .duplicate hfields hbefore hvalid ((contains_iff_of_foldlM_addField hc e).1 hname)
  · intro h
    cases h with
    | faulty hfields hbefore hfault =>
        obtain ⟨c, hc⟩ := exists_foldlM_addField_iff.2 hbefore
        exact ⟨_, _, _, c, hfields, hc, .inl hfault⟩
    | duplicate hfields hbefore hvalid hname =>
        obtain ⟨c, hc⟩ := exists_foldlM_addField_iff.2 hbefore
        have htaken := (contains_iff_of_foldlM_addField hc _).2 hname
        exact ⟨_, _, _, c, hfields, hc, .inr ⟨hvalid, htaken, rfl⟩⟩

/-- **A schema is applied exactly or rejected at its first fault.**  It comes to a whitelist exactly
if its entries are valid and no two share a name, and to a fault exactly if that is its first one.
The whitelist has one field for each entry, with the options of the entry and under its name: no
option is left out. -/
theorem whitelist_applies_or_rejects (s : Schema) :
    ((∃ w, s.whitelist = .ok w) ↔ FieldEntry.AreValid s.fields) ∧
      (∀ fault, s.whitelist = .error fault ↔ s.RejectedWith fault) ∧
      ∀ w, s.whitelist = .ok w →
        List.Forall₂ FieldEntry.Declares s.fields w.fields ∧ w.size = s.fields.length ∧
          ∀ e ∈ s.fields, ∃ f, w.find? e.name = some f ∧ e.Declares f := by
  refine ⟨exists_foldlM_addField_iff, fun fault => whitelist_eq_error_iff, fun w hw => ?_⟩
  obtain ⟨rs, hrs, hfields⟩ := foldlM_addField_eq_ok_iff.1 hw
  have hdeclares : List.Forall₂ FieldEntry.Declares s.fields w.fields := by
    rw [hfields]
    exact forall₂_declares hrs
  refine ⟨hdeclares, hdeclares.length_eq.symm, fun e he => ?_⟩
  obtain ⟨r, hr⟩ := exists_mapM_eq_ok_iff.1 ⟨rs, hrs⟩ e he
  have hfield := FieldEntry.declares_of_registration hr
  have hmem : r.field ∈ w.fields := by
    rw [hfields]
    exact List.mem_map_of_mem ((mem_iff_of_mapM_eq_ok hrs r).2 ⟨e, he, hr⟩)
  exact ⟨r.field, Whitelist.find?_eq_some_iff.2 ⟨hmem, by rw [Field.key, hfield.name]⟩, hfield⟩

/-- A renamed text with operators in mixed case and one of them twice, a number without operators,
and a truth value with those of its type. -/
def roster : Schema where
  fields :=
    [⟨"Name", some "Person.Name", .string, true, false, some ["EQ", "startsWith", "eq"]⟩,
      ⟨"age", none, .int, false, true, some []⟩, ⟨"active", none, .bool, false, false, none⟩]
  sorts := []
  defaultOrder? := none

/-- A number that asks for upper case, an operator that does not exist and a name that is taken. -/
def misfit : FieldEntry :=
  ⟨"NAME", none, .int, true, false, some ["like", "contains"]⟩

theorem areValid_roster : FieldEntry.AreValid roster.fields := by
  decide +kernel

/-- The roster is applied: the text has its other name and its two operators, and the number
supports nothing.  The misfit behind it is refused for its upper case before anything else. -/
theorem whitelist_applies_or_rejects_roster :
    (∃ w, roster.whitelist = .ok w ∧ w.size = 3 ∧
      (∃ f, w.find? "Name" = some f ∧ f.target = "Person.Name" ∧ f.ignoreCase = true ∧
        .equal ∈ f.supported ∧ .startsWith ∈ f.supported ∧ .endsWith ∉ f.supported) ∧
      ∃ f, w.find? "age" = some f ∧ f.checkNotNull = true ∧ ∀ k, k ∉ f.supported) ∧
      (⟨roster.fields ++ [misfit], [], none⟩ : Schema).whitelist =
        .error (.stringOnly "NAME" .int "ignore_case") := by
  obtain ⟨w, hw⟩ := (whitelist_applies_or_rejects roster).1.2 areValid_roster
  obtain ⟨-, hsize, hfind⟩ := (whitelist_applies_or_rejects roster).2.2 w hw
  obtain ⟨f, hf, hname⟩ := hfind _ List.mem_cons_self
  obtain ⟨g, hg, hage⟩ := hfind _ (List.mem_cons_of_mem _ List.mem_cons_self)
  have hsupported := hname.supported_listed _ rfl
  refine ⟨⟨w, hw, hsize, ⟨f, hf, hname.target, hname.ignoreCase, (hsupported _).2 ?_,
    (hsupported _).2 ?_, fun hends => absurd ((hsupported _).1 hends) ?_⟩,
    g, hg, hage.checkNotNull, fun k hk => ?_⟩, ?_⟩
  · decide
  · decide
  · decide
  · obtain ⟨o, ho, -⟩ := (hage.supported_listed _ rfl k).1 hk
    exact absurd ho List.not_mem_nil
  · refine ((whitelist_applies_or_rejects _).2.1 _).2 ?_
    exact .faulty (show _ = roster.fields ++ misfit :: [] from rfl) areValid_roster
      (.ignoreCase rfl (by decide))

end Schema

end FilterQuery
