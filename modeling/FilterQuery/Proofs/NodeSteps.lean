/-
**The steps of comparisons and calls as relations.**

A comparison or a call takes its tokens one by one.  For a token of one kind the successful steps
are put into relations here, with one constructor for each step, so that what a step keeps is
proved by cases.

Main definitions:

* `Comparison.Takes`, `Call.Takes` — a node takes a token and is in another state afterwards.

Main results:

* `Field.readConstant_eq_ok_iff` — the constants that are read are those that the field admits;
* `Comparison.add_eq_ok_iff`, `Call.add_eq_ok_iff` — the relations are what the nodes do.
-/

import FilterQuery.Formula.Derivation
import FilterQuery.Proofs.FirstFault
import Mathlib.Logic.Basic

set_option relaxedAutoImplicit false
set_option autoImplicit false

namespace FilterQuery

/-! ### Tokens of one kind -/

namespace Token

variable {t : Token} {k : Kind}

theorem IsA.isOf_iff (h : t.IsA k) (s : KindSet) : t.isOf s = true ↔ k ∈ s := by
  have hk : t.kinds = .single k := h
  rw [isOf, hk, KindSet.meets_single]

theorem IsA.is_iff (h : t.IsA k) (l : Kind) : t.is l = true ↔ l = k := by
  have hk : t.kinds = .single k := h
  rw [is, hk]
  simp [KindSet.single]

/-- A token has no other kind. -/
theorem IsA.kinds_eq_iff (h : t.IsA k) (l : Kind) : t.kinds = .single l ↔ k = l := by
  have hk : t.kinds = .single k := h
  rw [hk]
  constructor
  · intro heq
    have hmem : k ∈ KindSet.single l := heq ▸ KindSet.mem_single.2 rfl
    exact KindSet.mem_single.1 hmem
  · rintro rfl
    rfl

theorem IsA.unique {l : Kind} (h : t.IsA k) (h' : t.IsA l) : k = l :=
  (h.kinds_eq_iff l).1 h'

end Token

/-! ### Fields and constants -/

namespace Whitelist

variable {w : Whitelist} {t : Token} {k : Kind} {f : Field}

theorem mem_fields_of_names (h : w.Names t f) : f ∈ w.fields :=
  (find?_eq_some_iff.1 h.2).1

/-- The field of a token of one kind is the one that the token names. -/
theorem fieldOf_eq_ok_iff (ht : t.IsA k) : w.fieldOf t = .ok f ↔ w.Names t f := by
  have hk : t.is .field = true ↔ t.IsA .field := by
    rw [ht.is_iff, eq_comm]
    exact (ht.kinds_eq_iff .field).symm
  unfold fieldOf resolve Names
  rw [← hk]
  cases t.is .field with
  | false => simp
  | true => cases w.find? t.text <;> simp

end Whitelist

theorem Field.acceptsConstant_iff {f : Field} {t : Token} {k : Kind} (ht : t.IsA k) :
    f.acceptsConstant t.kinds = true ↔ k ∈ f.type.constantKinds := by
  have hk : t.kinds = .single k := ht
  rw [acceptsConstant, hk, KindSet.covers_single]

/-- A constant has one kind, which is a kind of constants. -/
theorem Field.Admits.exists_isA {f : Field} {allowNull : Bool} {t : Token} {c : Constant}
    (h : f.Admits allowNull t c) : ∃ k, t.IsA k ∧ k ∈ KindSet.constant := by
  cases h with
  | null ht _ _ => exact ⟨_, ht, by decide⟩
  | literal ht _ _ => exact ⟨_, ht, by decide⟩
  | @word k _ ht hk _ _ =>
      refine ⟨k, ht, ?_⟩
      revert hk
      cases k <;> decide

namespace Field

variable {f : Field} {allowNull : Bool} {t : Token} {k : Kind} {c : Constant}

/-- What is read of a token of one kind, decided on the kind. -/
theorem readConstant_eq (ht : t.IsA k) :
    f.readConstant allowNull t =
      if k ∉ KindSet.constant then .error t.misplaced
      else if k ∉ f.type.constantKinds ∨ (k = .nullWord ∧ allowNull = false) then
        .error (f.invalidValue t)
      else if k = .nullWord then .ok .null
      else
        match f.valueOf? (if k = .literal then t.literalValue else t.text) with
        | some v => .ok (.value v)
        | none => .error (f.invalidValue t) := by
  have his : ∀ l, t.is l = true ↔ k = l := fun l => (ht.is_iff l).trans eq_comm
  have hconst : (!t.isOf .constant) = true ↔ k ∉ KindSet.constant := by
    rw [Bool.not_eq_true', Bool.eq_false_iff, ne_eq, ht.isOf_iff]
  have hrefused : (!f.acceptsConstant t.kinds || (t.is .nullWord && !allowNull)) = true ↔
      k ∉ f.type.constantKinds ∨ (k = .nullWord ∧ allowNull = false) := by
    rw [Bool.or_eq_true, Bool.and_eq_true, Bool.not_eq_true', Bool.not_eq_true',
      Bool.eq_false_iff, ne_eq, acceptsConstant_iff ht, his]
  have htext : (if t.is .literal = true then t.literalValue else t.text) =
      if k = .literal then t.literalValue else t.text :=
    if_congr (his .literal) rfl rfl
  unfold readConstant
  rw [htext]
  exact if_congr hconst rfl (if_congr hrefused rfl (if_congr (his .nullWord) rfl rfl))

theorem admits_of_readConstant (ht : t.IsA k) (h : f.readConstant allowNull t = .ok c) :
    f.Admits allowNull t c := by
  rw [readConstant_eq ht] at h
  split at h
  · simp at h
  next hconst =>
  split at h
  · simp at h
  next htaken =>
  obtain ⟨hkind, hnull⟩ := not_or.1 htaken
  rw [Decidable.not_not] at hconst hkind
  split at h
  · next hk =>
      subst hk
      obtain rfl := Except.ok.inj h
      exact .null ht (by simpa using hnull) hkind
  next hk =>
  split at h
  · next v hv =>
      obtain rfl := Except.ok.inj h
      split at hv
      · next hl =>
          subst hl
          exact .literal ht hkind hv
      · next hl =>
          -- What is left of the constants are the unquoted ones.
          refine .word ht ?_ hkind hv
          revert hconst hk hl
          cases k <;> decide
  · simp at h

theorem readConstant_of_admits (h : f.Admits allowNull t c) :
    f.readConstant allowNull t = .ok c := by
  cases h with
  | null ht hb hm =>
      rw [readConstant_eq ht, if_neg (by decide), if_neg (by simp [hm, hb]), if_pos rfl]
  | literal ht hm hv =>
      rw [readConstant_eq ht, if_neg (by decide), if_neg (by simp [hm]), if_neg (by decide),
        if_pos rfl, hv]
  | @word k v ht hk hm hv =>
      have hconst : k ∈ KindSet.constant := by
        revert hk
        cases k <;> decide
      have hnull : k ≠ .nullWord := by
        rintro rfl
        simp at hk
      have hliteral : k ≠ .literal := by
        rintro rfl
        simp at hk
      rw [readConstant_eq ht, if_neg (by simp [hconst]), if_neg (by simp [hm, hnull]),
        if_neg hnull, if_neg hliteral, hv]

/-- The constants that are read are those that the field admits. -/
theorem readConstant_eq_ok_iff (ht : t.IsA k) :
    f.readConstant allowNull t = .ok c ↔ f.Admits allowNull t c :=
  ⟨admits_of_readConstant ht, readConstant_of_admits⟩

end Field

/-! ### Steps of comparisons -/

namespace Comparison

/-- The comparison consists of the field and nothing else. -/
def IsBare (c : Comparison) (f : Field) : Prop :=
  c = .flag f ∨ c = .named f

/-- The comparison takes a token of one kind and is in another state afterwards. -/
inductive Takes (w : Whitelist) : Comparison → Token → Comparison → Prop where
  | flag {t : Token} {f : Field} : w.Names t f → f.type.isBoolean = true →
      Takes w .blank t (.flag f)
  | named {t : Token} {f : Field} : w.Names t f → f.type.isBoolean = false →
      Takes w .blank t (.named f)
  | operator {c : Comparison} {t : Token} {f : Field} {k : Kind} : c.IsBare f → t.IsA k →
      k ∈ KindSet.comparison → k ≠ .memberOf → k ∈ f.supported →
      Takes w c t (.operated f (.single k))
  | membership {c : Comparison} {t : Token} {f : Field} : c.IsBare f → t.IsA .memberOf →
      .memberOf ∈ f.supported → Takes w c t (.listed f [] .opening)
  | constant {t : Token} {f : Field} {op : KindSet} {x : Constant} :
      f.Admits (KindSet.equality.covers op) t x → Takes w (.operated f op) t (.compared f op x)
  | opening {t : Token} {f : Field} {cs : List Constant} : t.IsA .openParen →
      Takes w (.listed f cs .opening) t (.listed f cs .item)
  | item {t : Token} {f : Field} {cs : List Constant} {x : Constant} : f.Admits true t x →
      Takes w (.listed f cs .item) t (.listed f (cs ++ [x]) .separator)
  | comma {t : Token} {f : Field} {cs : List Constant} : t.IsA .comma →
      Takes w (.listed f cs .separator) t (.listed f cs .item)
  | close {t : Token} {f : Field} {cs : List Constant} : t.IsA .closeParen →
      Takes w (.listed f cs .separator) t (.listed f cs .closed)

variable {w : Whitelist} {c d : Comparison} {t : Token} {k : Kind} {f : Field}

theorem takeOperator_eq_ok_iff (ht : t.IsA k) :
    takeOperator f t = .ok d ↔ k ∈ KindSet.comparison ∧ k ∈ f.supported ∧
      d = if k = .memberOf then .listed f [] .opening else .operated f (.single k) := by
  have hk : t.kinds = .single k := ht
  have hcmp := ht.isOf_iff .comparison
  have hsup : f.supports t.kinds = true ↔ k ∈ f.supported := by
    rw [Field.supports, hk, KindSet.covers_single]
  unfold takeOperator
  rw [← hcmp, ← hsup]
  cases t.isOf .comparison with
  | false => simp
  | true =>
      cases f.supports t.kinds with
      | false => simp
      | true =>
          simp only [ht.kinds_eq_iff]
          by_cases hm : k = .memberOf <;> simp [hm, hk, eq_comm]

theorem takes_of_takeOperator (ht : t.IsA k) (hc : c.IsBare f) (h : takeOperator f t = .ok d) :
    c.Takes w t d := by
  obtain ⟨hcmp, hsup, rfl⟩ := (takeOperator_eq_ok_iff ht).1 h
  by_cases hm : k = .memberOf
  · subst hm
    exact .membership hc ht hsup
  · rw [if_neg hm]
    exact .operator hc ht hcmp hm hsup

theorem takes_of_add_listed {cs : List Constant} {stage : ListStage} (ht : t.IsA k)
    (h : (listed f cs stage).add w t = .ok d) : (listed f cs stage).Takes w t d := by
  have his : ∀ l, t.is l = true → t.IsA l := by
    intro l hl
    obtain rfl := (ht.is_iff l).1 hl
    exact ht
  cases stage with
  | opening =>
      simp only [add] at h
      split at h
      · next hp =>
          obtain rfl := Except.ok.inj h
          exact .opening (his _ hp)
      · simp at h
  | item =>
      obtain ⟨x, hx, rfl⟩ := map_eq_ok_iff.1 h
      exact .item ((Field.readConstant_eq_ok_iff ht).1 hx)
  | separator =>
      simp only [add] at h
      split at h
      · next hp =>
          obtain rfl := Except.ok.inj h
          exact .comma (his _ hp)
      · split at h
        · next hp =>
            obtain rfl := Except.ok.inj h
            exact .close (his _ hp)
        · simp at h
  | closed => simp [add] at h

theorem takes_of_add (ht : t.IsA k) (h : c.add w t = .ok d) : c.Takes w t d := by
  cases c with
  | blank =>
      obtain ⟨f, hf, rfl⟩ := map_eq_ok_iff.1 h
      rw [Whitelist.fieldOf_eq_ok_iff ht] at hf
      cases hb : f.type.isBoolean with
      | false => exact .named hf hb
      | true => exact .flag hf hb
  | flag f => exact takes_of_takeOperator ht (.inl rfl) h
  | named f => exact takes_of_takeOperator ht (.inr rfl) h
  | operated f op =>
      obtain ⟨x, hx, rfl⟩ := map_eq_ok_iff.1 h
      exact .constant ((Field.readConstant_eq_ok_iff ht).1 hx)
  | compared f op x => simp [add] at h
  | listed f cs stage => exact takes_of_add_listed ht h

theorem add_of_takes (h : c.Takes w t d) : c.add w t = .ok d := by
  cases h with
  | flag hf hb => simp [add, (Whitelist.fieldOf_eq_ok_iff hf.1).2 hf, hb, Except.map]
  | named hf hb => simp [add, (Whitelist.fieldOf_eq_ok_iff hf.1).2 hf, hb, Except.map]
  | @operator c t f k hc ht hcmp hm hsup =>
      have hop := (takeOperator_eq_ok_iff ht (d := .operated f (.single k))).2
        ⟨hcmp, hsup, by rw [if_neg hm]⟩
      rcases hc with rfl | rfl <;> exact hop
  | @membership c t f hc ht hsup =>
      have hop := (takeOperator_eq_ok_iff ht (d := .listed f [] .opening)).2
        ⟨by decide, hsup, rfl⟩
      rcases hc with rfl | rfl <;> exact hop
  | constant hx =>
      obtain ⟨k, ht, -⟩ := hx.exists_isA
      simp [add, (Field.readConstant_eq_ok_iff ht).2 hx, Except.map]
  | opening ht => simp [add, (ht.is_iff _).2 rfl]
  | item hx =>
      obtain ⟨k, ht, -⟩ := hx.exists_isA
      simp [add, (Field.readConstant_eq_ok_iff ht).2 hx, Except.map]
  | comma ht => simp [add, (ht.is_iff _).2 rfl]
  | close ht =>
      have hc : t.is .comma = false := by simp [Bool.eq_false_iff, ht.is_iff]
      simp [add, hc, (ht.is_iff _).2 rfl]

/-- A comparison takes a token of one kind exactly as `Comparison.Takes` says. -/
theorem add_eq_ok_iff (ht : t.IsA k) : c.add w t = .ok d ↔ c.Takes w t d :=
  ⟨takes_of_add ht, add_of_takes⟩

/-- A comparison takes a token in one way at most. -/
theorem Takes.unique {d' : Comparison} (h : c.Takes w t d) (h' : c.Takes w t d') : d = d' :=
  Except.ok.inj ((add_of_takes h).symm.trans (add_of_takes h'))

/-- What a comparison takes it declares that it may take. -/
theorem Takes.canAdd (h : c.Takes w t d) : c.canAdd t = true := by
  cases h with
  | operator hc ht hcmp _ _ =>
      rcases hc with rfl | rfl
      · exact (ht.isOf_iff _).2 hcmp
      · rfl
  | membership hc ht _ =>
      rcases hc with rfl | rfl
      · exact (ht.isOf_iff _).2 (by decide)
      · rfl
  | _ => rfl

end Comparison

/-! ### Steps of calls -/

namespace Call

/-- The call takes a token of one kind and is in another state afterwards. -/
inductive Takes (w : Whitelist) : Call → Token → Call → Prop where
  | name {t : Token} {k : Kind} : t.IsA k → k ∈ KindSet.stringFunction →
      Takes w .blank t (.named (.single k))
  | opening {t : Token} {fn : KindSet} : t.IsA .openParen → Takes w (.named fn) t (.opened fn)
  | field {t : Token} {fn : KindSet} {f : Field} : w.Names t f → f.supports fn = true →
      Takes w (.opened fn) t (.fielded fn f)
  | comma {t : Token} {fn : KindSet} {f : Field} : t.IsA .comma →
      Takes w (.fielded fn f) t (.separated fn f)
  | value {t : Token} {fn : KindSet} {f : Field} {v : Value} : f.Admits false t (.value v) →
      Takes w (.separated fn f) t (.valued fn f v)
  | close {t : Token} {fn : KindSet} {f : Field} {v : Value} : t.IsA .closeParen →
      Takes w (.valued fn f v) t (.closed fn f v)

variable {w : Whitelist} {c d : Call} {t : Token} {k : Kind}

theorem takes_of_add (ht : t.IsA k) (h : c.add w t = .ok d) : c.Takes w t d := by
  have hk : t.kinds = .single k := ht
  have his : ∀ l, k ∈ KindSet.single l → t.IsA l := by
    intro l hl
    obtain rfl := KindSet.mem_single.1 hl
    exact ht
  unfold add at h
  split at h
  · simp at h
  next hexp =>
  simp only [Bool.not_eq_true', Bool.not_eq_false, ht.isOf_iff] at hexp
  cases c with
  | blank =>
      obtain rfl := Except.ok.inj h
      rw [hk]
      exact .name ht hexp
  | named fn =>
      obtain rfl := Except.ok.inj h
      exact .opening (his _ hexp)
  | opened fn =>
      obtain ⟨f, hf, hsup⟩ := bind_eq_ok_iff.1 h
      split at hsup
      · next hs =>
          obtain rfl := Except.ok.inj hsup
          exact .field ((Whitelist.fieldOf_eq_ok_iff ht).1 hf) hs
      · simp at hsup
  | fielded fn f =>
      obtain rfl := Except.ok.inj h
      exact .comma (his _ hexp)
  | separated fn f =>
      obtain ⟨x, hx, hv⟩ := bind_eq_ok_iff.1 h
      cases x with
      | null => simp at hv
      | value v =>
          obtain rfl := Except.ok.inj hv
          exact .value ((Field.readConstant_eq_ok_iff ht).1 hx)
  | valued fn f v =>
      obtain rfl := Except.ok.inj h
      exact .close (his _ hexp)
  | closed fn f v => simp [expected] at hexp

theorem add_of_takes (h : c.Takes w t d) : c.add w t = .ok d := by
  cases h with
  | @name t k ht hk =>
      have hkinds : t.kinds = .single k := ht
      simp [add, expected, (ht.isOf_iff _).2 hk, hkinds]
  | opening ht => simp [add, expected, ht.isOf_iff]
  | field hf hs =>
      simp [add, expected, hf.1.isOf_iff, takeField, (Whitelist.fieldOf_eq_ok_iff hf.1).2 hf, hs,
        Except.bind]
  | comma ht => simp [add, expected, ht.isOf_iff]
  | value hx =>
      obtain ⟨k, ht, hk⟩ := hx.exists_isA
      simp [add, expected, (ht.isOf_iff _).2 hk, takeValue, (Field.readConstant_eq_ok_iff ht).2 hx,
        Except.bind]
  | close ht => simp [add, expected, ht.isOf_iff]

/-- A call takes a token of one kind exactly as `Call.Takes` says. -/
theorem add_eq_ok_iff (ht : t.IsA k) : c.add w t = .ok d ↔ c.Takes w t d :=
  ⟨takes_of_add ht, add_of_takes⟩

/-- A call takes a token in one way at most. -/
theorem Takes.unique {d' : Call} (h : c.Takes w t d) (h' : c.Takes w t d') : d = d' :=
  Except.ok.inj ((add_of_takes h).symm.trans (add_of_takes h'))

/-- What a call takes it declares that it may take. -/
theorem Takes.canAdd (h : c.Takes w t d) : c.canAdd t = true := by
  cases h <;> rfl

end Call

end FilterQuery
