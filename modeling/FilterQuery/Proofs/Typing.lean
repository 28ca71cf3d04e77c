/-
**Everything that is handed out is registered and well typed.**

Settings keep a field within what its type allows, whatever their order, and without a converter
of its own a field makes values of its type and of no other.  A node is read from tokens that
follow each other in the filter, and it takes a token only after the checks of its field.  So every
node that is handed out, before a refusal as well, has a registered field, an operator that the
field supports, as many constants as the operator needs, and constants of the type of the field.

Main definitions:

* `Setting.KeepsValues`, `Registration.IsPlain` — settings that leave the values of constants alone;
* `Field.IsPlain` — a field that makes of a constant what its type does;
* `Node.IsSpelledBy` — the tokens from which a node has been read;
* `Comparison.IsTyped`, `Call.IsTyped`, `Node.IsTyped` — nodes that fit their fields;
* `Node.UpperCasesTexts` — a node that writes upper-casing for texts alone.

Main results:

* `Whitelist.isPlain_of_mem_enrollAll` — the fields of plain registrations are plain;
* `Progress.isSpelledBy_of_mem_run` — every node that is handed out is complete and is read from
  tokens that follow each other;
* `Whitelist.isTyped_of_mem_nodes` — **what a filter hands out fits the fields it is about**.
-/

import FilterQuery.Proofs.Completeness

set_option relaxedAutoImplicit false
set_option autoImplicit false

namespace FilterQuery

/-! ### Fields that are declared without a conversion of their own -/

/-- The setting leaves the values of constants alone. -/
def Setting.KeepsValues : Setting → Prop
  | .converter _ => False
  | .transform _ => False
  | _ => True

/-- The declaration leaves the values of constants alone. -/
def Registration.IsPlain (r : Registration) : Prop :=
  ∀ s ∈ r.settings, s.KeepsValues

/-- The field makes of a constant what its type does, supports no more than its type allows, and
ignores case only if it is a text. -/
structure Field.IsPlain (f : Field) : Prop where
  convert_eq : f.convert = Value.read? f.type
  transform_eq : f.transform = id
  allowed : f.type.allowedOperators.covers f.supported = true
  ignoreCase : f.ignoreCase = true → f.type = .string

namespace Field.IsPlain

variable {f : Field} {s : Setting}

theorem ofType (name : String) (type : FieldType) : (Field.ofType name type).IsPlain :=
  ⟨rfl, rfl, type.allowedOperators_covers_defaultOperators, fun h => Bool.noConfusion h⟩

/-- A setting that leaves values alone keeps a field plain. -/
theorem configure (h : f.IsPlain) (hs : s.KeepsValues) : (f.configure s).IsPlain := by
  have hallowed := allowed_covers_supported_configure f s h.allowed
  cases s with
  | rename target => exact ⟨h.convert_eq, h.transform_eq, hallowed, h.ignoreCase⟩
  | upperCase =>
      by_cases hstring : f.type.isString = true
      · have htype : f.type = .string := by
          revert hstring
          cases f.type <;> decide
        simp only [Field.configure, hstring, if_true] at hallowed ⊢
        exact ⟨h.convert_eq, h.transform_eq, hallowed, fun _ => htype⟩
      · rw [Field.configure, if_neg hstring]
        exact h
  | notNull => exact ⟨h.convert_eq, h.transform_eq, hallowed, h.ignoreCase⟩
  | supports kinds => exact ⟨h.convert_eq, h.transform_eq, hallowed, h.ignoreCase⟩
  | onlySupports kinds => exact ⟨h.convert_eq, h.transform_eq, hallowed, h.ignoreCase⟩
  | converter convert => exact absurd hs id
  | transform change => exact absurd hs id

theorem configureAll {settings : List Setting} (h : f.IsPlain)
    (hs : ∀ s ∈ settings, s.KeepsValues) : (f.configureAll settings).IsPlain := by
  induction settings generalizing f with
  | nil => exact h
  | cons s settings ih =>
      obtain ⟨hfirst, hrest⟩ := List.forall_mem_cons.1 hs
      exact ih (h.configure hfirst) hrest

end Field.IsPlain

namespace Whitelist

variable {w : Whitelist} {f : Field}

/-- A registration adds its field or changes nothing. -/
theorem mem_fields_enroll {r : Registration} (h : f ∈ (w.enroll r).fields) :
    f ∈ w.fields ∨ f = r.field := by
  unfold enroll at h
  split at h
  · next v hadd =>
      rw [fields_of_add hadd, List.mem_append, List.mem_singleton] at h
      exact h
  · exact .inl h

/-- The fields of plain registrations are plain. -/
theorem isPlain_of_mem_enrollAll {rs : List Registration} (hw : ∀ f ∈ w.fields, f.IsPlain)
    (hrs : ∀ r ∈ rs, r.IsPlain) : ∀ f ∈ (w.enrollAll rs).fields, f.IsPlain := by
  induction rs generalizing w with
  | nil => exact hw
  | cons r rs ih =>
      obtain ⟨hfirst, hrest⟩ := List.forall_mem_cons.1 hrs
      refine ih (fun f hf => ?_) hrest
      rcases mem_fields_enroll hf with hf | rfl
      · exact hw f hf
      · exact (Field.IsPlain.ofType r.name r.type).configureAll hfirst

end Whitelist

/-! ### Constants -/

/-- A value that is a text and no null. -/
theorem Value.exists_string {v : Value} (htype : v.type? = some .string) (hnull : v.isNull = false) :
    ∃ s, v = .string (some s) := by
  cases v with
  | string content =>
      cases content with
      | none => simp [isNull] at hnull
      | some s => exact ⟨s, rfl⟩
  | _ => simp [type?] at htype

/-- The value that a literal gives as a constant of a text field. -/
def Field.textValue (f : Field) (t : Token) : Value :=
  .string (some (if f.ignoreCase then Text.upper t.literalValue else t.literalValue))

/-- The values of the literals among the tokens, in order. -/
def Field.textValues (f : Field) (ts : List Token) : List Value :=
  (ts.filter fun t => t.is .literal).map f.textValue

theorem Field.textValues_append (f : Field) (ts us : List Token) :
    f.textValues (ts ++ us) = f.textValues ts ++ f.textValues us := by
  simp [textValues]

/-- A token that is no literal gives no value. -/
theorem Field.textValues_cons {f : Field} {t : Token} {k : Kind} (ht : t.IsA k)
    (hk : k ≠ .literal) (ts : List Token) : f.textValues (t :: ts) = f.textValues ts := by
  have hliteral : t.is .literal = false := by
    rw [Bool.eq_false_iff, ne_eq, ht.is_iff]
    exact Ne.symm hk
  simp [textValues, hliteral]

namespace Field.IsPlain

variable {f : Field} {allowNull : Bool} {t : Token} {c : Constant} {v : Value}

/-- A plain field makes values of its type, and no nulls. -/
theorem type_of_valueOf? {text : String} (h : f.IsPlain) (hv : f.valueOf? text = some v) :
    v.type? = some f.type ∧ v.isNull = false := by
  rw [Field.valueOf?, h.convert_eq, h.transform_eq] at hv
  obtain ⟨u, hu, rfl⟩ := Option.map_eq_some_iff.1 hv
  have htype := Value.type?_of_read? hu
  have hnull := Value.isNull_of_read? hu
  simp only [id]
  split
  · cases u with
    | string content => cases content <;> exact ⟨htype, hnull⟩
    | _ => exact ⟨htype, hnull⟩
  · exact ⟨htype, hnull⟩

theorem type_of_admits (h : f.IsPlain) (hc : f.Admits allowNull t (.value v)) :
    v.type? = some f.type ∧ v.isNull = false := by
  cases hc with
  | literal _ _ hv => exact h.type_of_valueOf? hv
  | word _ _ _ hv => exact h.type_of_valueOf? hv

/-- The constants of a text field are nulls and the values of literals. -/
theorem value?_of_admits (h : f.IsPlain) (htype : f.type = .string)
    (hc : f.Admits allowNull t c) : c.value?.toList = f.textValues [t] := by
  cases hc with
  | null ht _ _ => exact (Field.textValues_cons ht (by decide) []).symm
  | literal ht _ hv =>
      rw [Field.valueOf?, h.convert_eq, h.transform_eq, htype] at hv
      obtain rfl := Option.some.inj hv
      have hliteral : t.is .literal = true := (ht.is_iff _).2 rfl
      simp only [Constant.value?, Option.toList_some, Field.textValues, List.filter_cons, hliteral,
        if_true, List.filter_nil, List.map_cons, List.map_nil, Field.textValue, id]
      split <;> rfl
  | @word k _ _ hk hkind _ =>
      -- Text fields take no unquoted constants.
      have hnone : k ∉ FieldType.string.constantKinds := by
        revert hk
        cases k <;> decide
      exact absurd (htype ▸ hkind) hnone

/-- The values of a list of constants of a text field are those of the literals. -/
theorem filterMap_value?_of_lists {cs : List Constant} {ts : List Token} (h : f.IsPlain)
    (htype : f.type = .string) (hl : f.Lists cs ts) :
    cs.filterMap Constant.value? = f.textValues ts := by
  induction hl with
  | @single t c hc =>
      rw [← h.value?_of_admits htype hc]
      cases hv : c.value? <;> simp [hv]
  | @cons t comma c cs ts hc hcomma _ ih =>
      have hfirst := h.value?_of_admits htype hc
      have hrest := Field.textValues_cons (f := f) hcomma (by decide) ts
      have hsplit : f.textValues (t :: comma :: ts) =
          f.textValues [t] ++ f.textValues (comma :: ts) :=
        f.textValues_append [t] (comma :: ts)
      rw [hsplit, ← hfirst, hrest, ← ih]
      cases hv : c.value? <;> simp [hv]

end Field.IsPlain

theorem Field.Lists.type_of_mem {f : Field} {cs : List Constant} {ts : List Token} {v : Value}
    (hl : f.Lists cs ts) (h : f.IsPlain) (hv : .value v ∈ cs) :
    v.type? = some f.type ∧ v.isNull = false := by
  induction hl with
  | single hc =>
      obtain rfl := List.mem_singleton.1 hv
      exact h.type_of_admits hc
  | cons hc _ _ ih =>
      rcases List.mem_cons.1 hv with rfl | hv
      · exact h.type_of_admits hc
      · exact ih hv

/-! ### Nodes and the tokens from which they have been read -/

/-- The node has been read from the tokens. -/
def Node.IsSpelledBy (w : Whitelist) (n : Node) (ts : List Token) : Prop :=
  match n with
  | .comparison c => c.Spells w ts
  | .call c => c.Spells w ts
  | _ => True

/-- The pending node has been read from the last of the tokens. -/
def Progress.IsSpelledBy (w : Whitelist) (p : Progress) (ts : List Token) : Prop :=
  ∀ n ∈ p.pending?, ∃ us, us <:+ ts ∧ n.IsSpelledBy w us

section Spelling

variable {w : Whitelist} {p q : Progress} {t : Token} {k : Kind} {ts us : List Token} {n : Node}

theorem Cursor.Starts.isSpelledBy {c d : Cursor} (h : c.Starts w t k d n) :
    n.IsSpelledBy w [t] := by
  cases h with
  | comparison _ _ hn => exact Comparison.Spells.blank.step hn
  | call _ _ _ hn => exact Call.Spells.blank.step hn
  | _ => trivial

theorem Node.IsSpelledBy.add {m : Node} (h : n.IsSpelledBy w ts) (ht : t.IsA k)
    (hadd : n.add w t = .ok m) : m.IsSpelledBy w (ts ++ [t]) := by
  cases n with
  | comparison c =>
      obtain ⟨d, hd, rfl⟩ := map_eq_ok_iff.1 hadd
      exact Comparison.Spells.step h (Comparison.takes_of_add ht hd)
  | call c =>
      obtain ⟨d, hd, rfl⟩ := map_eq_ok_iff.1 hadd
      exact Call.Spells.step h (Call.takes_of_add ht hd)
  | _ => simp [add] at hadd

/-- An accepted token joins those from which the pending node has been read, or starts anew. -/
theorem Progress.IsSpelledBy.accept (h : p.IsSpelledBy w ts) (ht : t.IsA k)
    (hacc : p.Accepts w t k q) : q.IsSpelledBy w (ts ++ [t]) := by
  cases hacc with
  | @taken n m hpending _ hadd =>
      obtain ⟨us, ⟨vs, rfl⟩, hn⟩ := h n hpending
      rintro _ ⟨⟩
      exact ⟨us ++ [t], ⟨vs, (List.append_assoc vs us [t]).symm⟩, hn.add ht hadd⟩
  | started _ hs =>
      rintro _ ⟨⟩
      exact ⟨[t], ⟨ts, rfl⟩, hs.isSpelledBy⟩

/-- The node that is handed out at a token is complete, and it has been read from tokens that follow
each other. -/
theorem Progress.IsSpelledBy.ended? (h : p.IsSpelledBy w ts) (hn : n ∈ p.ended? t) :
    n.isComplete = true ∧ ∃ vs, vs <:+ ts ∧ n.IsSpelledBy w vs := by
  obtain ⟨hpending, hcan⟩ := Option.filter_eq_some_iff.1 hn
  exact ⟨Node.isComplete_of_not_canAdd (by simpa using hcan), h n hpending⟩

theorem Progress.IsSpelledBy.finish (h : p.IsSpelledBy w ts) (hn : n ∈ p.finish.items) :
    n.isComplete = true ∧ ∃ vs, vs <:+ ts ∧ n.IsSpelledBy w vs := by
  unfold Progress.finish at hn
  split at hn
  · simp [Yield.empty] at hn
  · simp at hn
  · next m _ hpending =>
      split at hn
      · next hdone =>
          obtain rfl := List.mem_singleton.1 hn
          exact ⟨hdone, h n hpending⟩
      · simp [Yield.ofRefusal] at hn

/-- Every node that is handed out, before a refusal as well, is complete, and it has been read from
tokens that follow each other. -/
theorem Progress.isSpelledBy_of_mem_run {broken? : Option Refusal} (h : p.IsSpelledBy w ts)
    (hus : ∀ t ∈ us, ∃ k, t.IsA k) (hn : n ∈ (p.run w broken? us).items) :
    n.isComplete = true ∧ ∃ vs, vs <:+: ts ++ us ∧ n.IsSpelledBy w vs := by
  induction us generalizing p ts with
  | nil =>
      cases broken? with
      | some r => simp [run, Yield.ofRefusal] at hn
      | none =>
          obtain ⟨hdone, vs, hvs, hspelled⟩ := h.finish hn
          exact ⟨hdone, vs, by simpa using hvs.isInfix, hspelled⟩
  | cons t us ih =>
      obtain ⟨k, ht⟩ := hus t (by simp)
      have hended : n ∈ (p.ended? t).toList →
          n.isComplete = true ∧ ∃ vs, vs <:+: ts ++ t :: us ∧ n.IsSpelledBy w vs := by
        intro hn
        obtain ⟨hdone, vs, hvs, hspelled⟩ := h.ended? (Option.mem_toList.1 hn)
        have hprefix : ts <+: ts ++ t :: us := List.prefix_append ts (t :: us)
        exact ⟨hdone, vs, hvs.isInfix.trans hprefix.isInfix, hspelled⟩
      cases hacc : p.accept w t with
      | error r =>
          rw [run_cons_of_error hacc] at hn
          exact hended hn
      | ok q =>
          rw [run_cons_of_ok hacc, Yield.items_prepend, List.mem_append] at hn
          rcases hn with hn | hn
          · exact hended hn
          · have hq := h.accept ht ((accept_eq_ok_iff ht).1 hacc)
            have hrest := ih hq (fun u hu => hus u (by simp [hu])) hn
            rwa [List.append_assoc, List.singleton_append] at hrest

end Spelling

/-! ### Nodes that fit their fields -/

/-- The comparison fits the field, which is registered, and has been read from the tokens. -/
structure Comparison.IsTyped (w : Whitelist) (f : Field) (ts : List Token) (c : Comparison) :
    Prop where
  field?_eq : c.field? = some f
  registered : f ∈ w.fields
  /-- Only a boolean field stands without an operator. -/
  bare : c.operator? = none → f.type = .bool
  /-- The operator is one that the field supports. -/
  supported : ∀ op, c.operator? = some op →
    ∃ k, op = .single k ∧ k ∈ KindSet.comparison ∧ k ∈ f.supported
  /-- Every operator but that of lists has one constant. -/
  scalar : ∀ op, c.operator? = some op → op ≠ .single .memberOf → ∃ x, c.constants = [x]
  listed : c.operator? = some (.single .memberOf) → c.constants ≠ []
  /-- Null is a constant of three operators alone. -/
  null : .null ∈ c.constants →
    ∃ k ∈ [Kind.equal, .notEqual, .memberOf], c.operator? = some (.single k)
  typed : ∀ v, .value v ∈ c.constants → v.type? = some f.type ∧ v.isNull = false
  ignoreCase : f.ignoreCase = true → f.type = .string
  /-- The values of a text field are those of the literals, in upper case if case is ignored. -/
  text : f.type = .string → c.constants.filterMap Constant.value? = f.textValues ts

/-- The call fits the field, which is registered and a text, and has been read from the tokens. -/
structure Call.IsTyped (w : Whitelist) (f : Field) (ts : List Token) (c : Call) : Prop where
  field?_eq : c.field? = some f
  registered : f ∈ w.fields
  /-- The function is one that the field supports. -/
  supported : ∃ k ∈ KindSet.stringFunction, c.function? = some (.single k) ∧ k ∈ f.supported
  isString : f.type = .string
  typed : ∃ s, c.value? = some (.string (some s))
  /-- The value is that of the literal, in upper case if case is ignored. -/
  text : c.value?.toList = f.textValues ts

/-- The node fits a registered field and has been read from some of the tokens that follow each
other. -/
def Node.IsTyped (w : Whitelist) (ts : List Token) (n : Node) : Prop :=
  match n with
  | .comparison c => ∃ f us, us <:+: ts ∧ c.IsTyped w f us
  | .call c => ∃ f us, us <:+: ts ∧ c.IsTyped w f us
  | _ => True

section Typing

variable {w : Whitelist} {f : Field} {ts : List Token}

/-- Only text fields support string functions. -/
theorem Field.IsPlain.type_of_supports {k : Kind} (h : f.IsPlain) (hk : k ∈ KindSet.stringFunction)
    (hsup : k ∈ f.supported) : f.type = .string := by
  have hallowed : k ∈ f.type.allowedOperators := KindSet.covers_iff.1 h.allowed k hsup
  revert hk hallowed
  cases f.type <;> cases k <;> decide

theorem Comparison.isTyped_flag {t : Token} (hf : w.Names t f) (hplain : f.IsPlain)
    (hb : f.type.isBoolean = true) :
    (Comparison.flag f).IsTyped w f [t] where
  field?_eq := rfl
  registered := Whitelist.mem_fields_of_names hf
  bare _ := by
    revert hb
    cases f.type <;> decide
  supported _ hop := by simp [operator?] at hop
  scalar _ hop := by simp [operator?] at hop
  listed hop := by simp [operator?] at hop
  null hx := absurd hx List.not_mem_nil
  typed _ hv := absurd hv List.not_mem_nil
  ignoreCase := hplain.ignoreCase
  text _ := (Field.textValues_cons hf.1 (by decide) []).symm

theorem Comparison.isTyped_compared {t op x : Token} {k : Kind} {c : Constant} (hf : w.Names t f)
    (hplain : f.IsPlain) (hop : op.IsA k) (hcmp : k ∈ KindSet.comparison) (hm : k ≠ .memberOf)
    (hsup : k ∈ f.supported) (hx : f.Admits (decide (k ∈ KindSet.equality)) x c) :
    (Comparison.compared f (.single k) c).IsTyped w f [t, op, x] where
  field?_eq := rfl
  registered := Whitelist.mem_fields_of_names hf
  bare hbare := by simp [operator?] at hbare
  supported _ heq := ⟨k, (Option.some.inj heq).symm, hcmp, hsup⟩
  scalar _ _ _ := ⟨c, rfl⟩
  listed heq := by
    have hkinds := Option.some.inj heq
    exact absurd (KindSet.mem_single.1 (hkinds ▸ KindSet.mem_single.2 rfl)) hm
  null hnull := by
    obtain rfl := List.mem_singleton.1 hnull
    cases hx with
    | null _ hequality _ =>
        refine ⟨k, ?_, rfl⟩
        have hk := KindSet.mem_ofList.1 (of_decide_eq_true hequality)
        simp only [List.mem_cons, List.not_mem_nil, or_false] at hk ⊢
        exact hk.elim .inl fun h => .inr (.inl h)
  typed v hv := by
    obtain rfl := List.mem_singleton.1 hv
    exact hplain.type_of_admits hx
  ignoreCase := hplain.ignoreCase
  text htype := by
    have hfirst := Field.textValues_cons (f := f) hf.1 (by decide) [op, x]
    have hliteral : k ≠ .literal := by
      rintro rfl
      simp [KindSet.comparison] at hcmp
    rw [hfirst, Field.textValues_cons hop hliteral, ← hplain.value?_of_admits htype hx]
    cases hv : c.value? <;> simp [constants, hv]

theorem Comparison.isTyped_listed {t op open_ close : Token} {cs : List Constant} (hf : w.Names t f)
    (hplain : f.IsPlain) (hop : op.IsA .memberOf) (hsup : .memberOf ∈ f.supported)
    (hopen : open_.IsA .openParen) (hl : f.Lists cs ts) (hclose : close.IsA .closeParen) :
    (Comparison.listed f cs .closed).IsTyped w f (t :: op :: open_ :: (ts ++ [close])) where
  field?_eq := rfl
  registered := Whitelist.mem_fields_of_names hf
  bare hbare := by simp [operator?] at hbare
  supported _ heq := ⟨.memberOf, (Option.some.inj heq).symm, by decide, hsup⟩
  scalar _ heq hne := absurd (Option.some.inj heq).symm hne
  listed _ := by cases hl <;> simp [constants]
  null _ := ⟨.memberOf, by decide, rfl⟩
  typed v hv := hl.type_of_mem hplain hv
  ignoreCase := hplain.ignoreCase
  text htype := by
    rw [Field.textValues_cons hf.1 (by decide), Field.textValues_cons hop (by decide),
      Field.textValues_cons hopen (by decide), Field.textValues_append,
      Field.textValues_cons hclose (by decide), ← hplain.filterMap_value?_of_lists htype hl]
    exact (List.append_nil _).symm

/-- A complete comparison fits its field. -/
theorem Comparison.Spells.isTyped {c : Comparison} (h : c.Spells w ts) (hc : c.isComplete = true)
    (hw : ∀ f ∈ w.fields, f.IsPlain) : ∃ f, c.IsTyped w f ts := by
  have hplain : ∀ {t : Token} {f : Field}, w.Names t f → f.IsPlain :=
    fun hf => hw _ (Whitelist.mem_fields_of_names hf)
  cases h with
  | flag hf hb => exact ⟨_, isTyped_flag hf (hplain hf) hb⟩
  | compared hf hop hcmp hm hsup hx =>
      exact ⟨_, isTyped_compared hf (hplain hf) hop hcmp hm hsup hx⟩
  | closed hf hop hsup hopen hl hclose =>
      exact ⟨_, isTyped_listed hf (hplain hf) hop hsup hopen hl hclose⟩
  | _ => simp [isComplete] at hc

/-- A closed call fits its field. -/
theorem Call.Spells.isTyped {c : Call} (h : c.Spells w ts) (hc : c.isComplete = true)
    (hw : ∀ f ∈ w.fields, f.IsPlain) : ∃ f, c.IsTyped w f ts := by
  cases h with
  | @closed fn open_ t comma x close k f v hfn hk hopen hf hsup hcomma hx hclose =>
      have hplain := hw f (Whitelist.mem_fields_of_names hf)
      have hstring := hplain.type_of_supports hk hsup
      have htyped := hplain.type_of_admits hx
      have hliteral : k ≠ .literal := by
        rintro rfl
        simp [KindSet.stringFunction] at hk
      have htext : f.textValues [fn, open_, t, comma, x, close] = [v] := by
        have hvalue : [v] = f.textValues [x] := hplain.value?_of_admits hstring hx
        have hsplit : f.textValues [x, close] = f.textValues [x] ++ f.textValues [close] :=
          f.textValues_append [x] [close]
        rw [Field.textValues_cons hfn hliteral, Field.textValues_cons hopen (by decide),
          Field.textValues_cons hf.1 (by decide), Field.textValues_cons hcomma (by decide),
          hsplit, Field.textValues_cons hclose (by decide), ← hvalue]
        rfl
      obtain ⟨s, rfl⟩ := Value.exists_string (hstring ▸ htyped.1) htyped.2
      exact ⟨f, rfl, Whitelist.mem_fields_of_names hf, ⟨k, hk, rfl, hsup⟩, hstring, ⟨s, rfl⟩,
        htext.symm⟩
  | _ => simp [isComplete] at hc

end Typing

/-! ### Upper-casing in the output -/

/-- The field of a node. -/
def Node.field? : Node → Option Field
  | .comparison c => c.field?
  | .call c => c.field?
  | _ => none

/-- Upper-casing is written for texts alone: elsewhere it stands in the output only if the target
name of the field has it. -/
def Node.UpperCasesTexts (n : Node) : Prop :=
  ∀ s, Piece.text s ∈ n.pieces → ".ToUpper()".toList <:+: s.toList →
    ∃ f, n.field? = some f ∧ (f.type = .string ∨ s = f.target)

/-- The words and marks of the output that do not come from a field. -/
def outputWords : List String :=
  ["(", ")", ",", "!", "null", "in", "&&", "||", "==", "!=", ">", ">=", "<", "<="]

section Output

variable {f : Field} {s : String}

theorem not_upperCase_of_mem_outputWords (h : s ∈ outputWords) :
    ¬ ".ToUpper()".toList <:+: s.toList := by
  revert s
  decide

theorem KindSet.operatorSymbol?_mem_outputWords {k : Kind} (h : k ∈ KindSet.comparison) :
    (KindSet.single k).operatorSymbol?.getD "" ∈ outputWords := by
  rw [KindSet.operatorSymbol?_single]
  revert h
  cases k <;> decide

theorem Comparison.mem_outputWords_of_mem_listPieces {cs : List Constant}
    (h : Piece.text s ∈ listPieces cs) : s ∈ outputWords := by
  have hconstant : ∀ c : Constant, Piece.text s = c.piece → s ∈ outputWords := by
    intro c hc
    cases c with
    | null =>
        obtain rfl := Piece.text.inj hc
        decide
    | value v => exact Piece.noConfusion hc
  fun_induction listPieces cs with
  | case1 => exact absurd h List.not_mem_nil
  | case2 c => exact hconstant c (List.mem_singleton.1 h)
  | case3 c cs _ ih =>
      rcases List.mem_cons.1 h with h | h
      · exact hconstant c h
      rcases List.mem_cons.1 h with h | h
      · obtain rfl := Piece.text.inj h
        decide
      · exact ih h

theorem Field.mem_of_mem_guard {ps : List Piece} (h : Piece.text s ∈ f.guard ps) :
    s = f.target ∨ s ∈ outputWords ∨ Piece.text s ∈ ps := by
  unfold guard at h
  split at h
  · simp only [List.mem_append, List.mem_cons, List.not_mem_nil, or_false, Piece.text.injEq] at h
    rcases h with (h | h) | rfl
    · rcases h with rfl | rfl | rfl | rfl | rfl
      · exact .inr (.inl (by decide))
      · exact .inl rfl
      · exact .inr (.inl (by decide))
      · exact .inr (.inl (by decide))
      · exact .inr (.inl (by decide))
    · exact .inr (.inr h)
    · exact .inr (.inl (by decide))
  · exact .inr (.inr h)

/-- What a comparison writes comes from its field or is one of the fixed words. -/
theorem Comparison.text_of_mem_pieces {w : Whitelist} {ts : List Token} {c : Comparison}
    (hc : c.IsTyped w f ts) (h : Piece.text s ∈ c.pieces) :
    s = f.target ∨ s = f.compared ∨ s ∈ outputWords := by
  have hfield := hc.field?_eq
  cases c with
  | blank => simp [pieces] at h
  | flag g =>
      obtain rfl := Option.some.inj hfield
      exact .inl (Piece.text.inj (List.mem_singleton.1 h))
  | named g =>
      obtain rfl := Option.some.inj hfield
      exact .inl (Piece.text.inj (List.mem_singleton.1 h))
  | operated g op => simp [pieces] at h
  | compared g op x =>
      obtain rfl := Option.some.inj hfield
      obtain ⟨k, rfl, hk, -⟩ := hc.supported op rfl
      have hsymbol := KindSet.operatorSymbol?_mem_outputWords hk
      cases x with
      | null =>
          simp only [pieces, scalarPieces, List.mem_cons, List.not_mem_nil, or_false,
            Piece.text.injEq] at h
          rcases h with rfl | rfl | rfl
          · exact .inl rfl
          · exact .inr (.inr hsymbol)
          · exact .inr (.inr (by decide))
      | value v =>
          rcases Field.mem_of_mem_guard h with h | h | h
          · exact .inl h
          · exact .inr (.inr h)
          · simp only [List.mem_cons, List.not_mem_nil, or_false, Piece.text.injEq,
              reduceCtorEq] at h
            rcases h with rfl | rfl
            · exact .inr (.inl rfl)
            · exact .inr (.inr hsymbol)
  | listed g cs stage =>
      obtain rfl := Option.some.inj hfield
      simp only [pieces, List.mem_append, List.mem_cons, List.not_mem_nil, or_false,
        Piece.text.injEq] at h
      rcases h with ((rfl | rfl | rfl) | h) | rfl
      · exact .inr (.inl rfl)
      · exact .inr (.inr (by decide))
      · exact .inr (.inr (by decide))
      · exact .inr (.inr (mem_outputWords_of_mem_listPieces h))
      · exact .inr (.inr (by decide))

theorem KindSet.logicalSymbol?_mem_outputWords {kinds : KindSet}
    (h : kinds.logicalSymbol? = some s) : s ∈ outputWords := by
  obtain ⟨k, -, hk⟩ := Option.bind_eq_some_iff.1 h
  cases k <;> simp only [Kind.logicalSymbol?, Option.some.injEq, reduceCtorEq] at hk
  all_goals
    subst hk
    decide

/-- A node that fits its field writes upper-casing for texts alone. -/
theorem Node.IsTyped.upperCasesTexts {w : Whitelist} {ts : List Token} {n : Node}
    (h : n.IsTyped w ts) : n.UpperCasesTexts := by
  intro s hs hupper
  have hnoWord : s ∉ outputWords := fun hword => not_upperCase_of_mem_outputWords hword hupper
  cases n with
  | comparison c =>
      obtain ⟨f, us, -, hc⟩ := h
      refine ⟨f, hc.field?_eq, ?_⟩
      rcases Comparison.text_of_mem_pieces hc hs with htarget | hcompared | hword
      · exact .inr htarget
      · cases hcase : f.ignoreCase with
        | true => exact .inl (hc.ignoreCase hcase)
        | false => exact .inr (by rw [hcompared, Field.compared, hcase]; rfl)
      · exact absurd hword hnoWord
  | call c =>
      obtain ⟨f, us, -, hc⟩ := h
      exact ⟨f, hc.field?_eq, .inl hc.isString⟩
  | logical kinds =>
      obtain ⟨r, hr, heq⟩ := Option.map_eq_some_iff.1 (Option.mem_toList.1 hs)
      obtain rfl := Piece.text.inj heq
      exact absurd (KindSet.logicalSymbol?_mem_outputWords hr) hnoWord
  | openParen t =>
      obtain rfl := Piece.text.inj (List.mem_singleton.1 hs)
      exact absurd (by decide) hnoWord
  | closeParen t =>
      obtain rfl := Piece.text.inj (List.mem_singleton.1 hs)
      exact absurd (by decide) hnoWord

end Output

/-! ### Filters -/

namespace Whitelist

/-- **What a filter hands out fits the fields it is about**, be the filter accepted or refused: the
field is registered, the operator is one that it supports and has the constants it needs, and the
constants are of the type of the field. -/
theorem isTyped_of_mem_nodes {w : Whitelist} {rs : List Registration}
    (hw : w = (∅ : Whitelist).enrollAll rs) (hrs : ∀ r ∈ rs, r.IsPlain) {filter : String} {n : Node}
    (hn : n ∈ (w.nodes filter).items) :
    n.IsTyped w (w.scan filter).items ∧ n.UpperCasesTexts := by
  have hplain : ∀ f ∈ w.fields, f.IsPlain := by
    rw [hw]
    exact isPlain_of_mem_enrollAll (fun f hf => absurd hf List.not_mem_nil) hrs
  have hstart : Progress.initial.IsSpelledBy w [] := by
    simp [Progress.IsSpelledBy, Progress.initial]
  have hkinds : ∀ t ∈ (w.scan filter).items, ∃ k, t.IsA k :=
    exists_isA_of_mem_scanFrom w 0 filter.toList
  obtain ⟨hdone, us, hus, hspelled⟩ := Progress.isSpelledBy_of_mem_run hstart hkinds hn
  rw [List.nil_append] at hus
  have htyped : n.IsTyped w (w.scan filter).items := by
    cases n with
    | comparison c =>
        obtain ⟨f, hc⟩ := Comparison.Spells.isTyped hspelled hdone hplain
        exact ⟨f, us, hus, hc⟩
    | call c =>
        obtain ⟨f, hc⟩ := Call.Spells.isTyped hspelled hdone hplain
        exact ⟨f, us, hus, hc⟩
    | _ => trivial
  exact ⟨htyped, htyped.upperCasesTexts⟩

/-- A text field whose functions are added after its case is ignored, and a number on which the same
settings have no effect. -/
def declared : List Registration :=
  [⟨"name", .string, [.rename "Person.Name", .upperCase, .supports .stringFunction]⟩,
    ⟨"age", .long, [.upperCase, .onlySupports (KindSet.equality.union .stringFunction), .notNull]⟩]

theorem isTyped_of_mem_nodes_refused :
    (∀ r ∈ declared, r.IsPlain) ∧
      (((∅ : Whitelist).enrollAll declared).nodes "contains(name, 'bob') or age gt 1").refusal? =
        some (.unsupportedOperator "age" "gt") ∧
      ∃ n, (((∅ : Whitelist).enrollAll declared).nodes
          "contains(name, 'bob') or age gt 1").items.head? = some n ∧
        n.render = ⟨"Person.Name.ToUpper().Contains(@0)", [.string (some "BOB")]⟩ ∧
        n.IsTyped ((∅ : Whitelist).enrollAll declared)
          (((∅ : Whitelist).enrollAll declared).scan "contains(name, 'bob') or age gt 1").items ∧
        n.UpperCasesTexts := by
  have hplain : ∀ r ∈ declared, r.IsPlain := by
    simp [declared, Registration.IsPlain, Setting.KeepsValues]
  have hfirst : ((((∅ : Whitelist).enrollAll declared).nodes
      "contains(name, 'bob') or age gt 1").items.head?).map Node.render =
        some ⟨"Person.Name.ToUpper().Contains(@0)", [.string (some "BOB")]⟩ := by
    decide +kernel
  obtain ⟨n, hn, hrender⟩ := Option.map_eq_some_iff.1 hfirst
  exact ⟨hplain, by decide +kernel, n, hn, hrender,
    isTyped_of_mem_nodes rfl hplain (List.mem_of_head? hn)⟩

end Whitelist

end FilterQuery
