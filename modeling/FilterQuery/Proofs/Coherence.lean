/-
**The registers of a node are in step.**

The registers of a comparison or a call are four separate places, and an update could leave any mix
of them behind.  What is really in them is fixed by the stage: each stage comes with the registers
that are set and with what is known of them.  A token of one kind leads from one such mix to the
next, and a refused token changes nothing, so no other mix is ever reached.  What the program
provides for registers that are out of step is then never used.

Main definitions:

* `Token.IsSingle` — the token has exactly one kind;
* `Comparison.Registers.IsCoherent`, `Call.Registers.IsCoherent` — the registers that belong to each
  stage.

Main results:

* `Comparison.isCoherent_of_takes`, `Call.isCoherent_of_takes` — a step keeps registers in step;
* `Comparison.Registers.isCoherent_of_reached`, `Call.Registers.isCoherent_of_reached` — so do any
  updates;
* `Node.Registers.inStep_of_reached` — **the registers are in step**, nothing is missing where it is
  needed, and a complete node has as many arguments as constants that are not null.
-/

import FilterQuery.Proofs.Grouping
import FilterQuery.Proofs.InPlace

set_option relaxedAutoImplicit false
set_option autoImplicit false

namespace FilterQuery

/-- The token has exactly one kind. -/
def Token.IsSingle (t : Token) : Prop :=
  ∃ k, t.IsA k

/-! ### Comparisons -/

namespace Comparison

namespace Registers

/-- The registers that belong to each stage of a comparison. -/
inductive IsCoherent : Registers → Prop where
  | field : IsCoherent ⟨.field, none, none, []⟩
  | flag {f : Field} : f.type.isBoolean = true → IsCoherent ⟨.flag, some f, none, []⟩
  | operator {f : Field} : f.type.isBoolean = false → IsCoherent ⟨.operator, some f, none, []⟩
  | constant {f : Field} {k : Kind} : k ∈ KindSet.comparison → k ≠ .memberOf → k ∈ f.supported →
      IsCoherent ⟨.constant, some f, some (.single k), []⟩
  | compared {f : Field} {k : Kind} (c : Constant) : k ∈ KindSet.comparison → k ≠ .memberOf →
      k ∈ f.supported → IsCoherent ⟨.complete, some f, some (.single k), [c]⟩
  | opening {f : Field} : .memberOf ∈ f.supported →
      IsCoherent ⟨.opening, some f, some (.single .memberOf), []⟩
  | item {f : Field} (cs : List Constant) : .memberOf ∈ f.supported →
      IsCoherent ⟨.item, some f, some (.single .memberOf), cs⟩
  | separator {f : Field} {cs : List Constant} : .memberOf ∈ f.supported → cs ≠ [] →
      IsCoherent ⟨.separator, some f, some (.single .memberOf), cs⟩
  | listed {f : Field} {cs : List Constant} : .memberOf ∈ f.supported → cs ≠ [] →
      IsCoherent ⟨.complete, some f, some (.single .memberOf), cs⟩

end Registers

variable {w : Whitelist} {c d : Comparison} {t : Token}

/-- A step of a comparison keeps the registers in step. -/
theorem isCoherent_of_takes (h : c.registers.IsCoherent) (hstep : c.Takes w t d) :
    d.registers.IsCoherent := by
  cases hstep with
  | flag _ hb => exact .flag hb
  | named _ hb => exact .operator hb
  | operator _ _ hcmp hm hsup => exact .constant hcmp hm hsup
  | membership _ _ hsup => exact .opening hsup
  | @constant t f op x hx =>
      cases h with
      | constant hcmp hm hsup => exact .compared x hcmp hm hsup
  | opening _ =>
      cases h with
      | opening hsup => exact .item _ hsup
  | item _ =>
      cases h with
      | item _ hsup =>
          exact .separator hsup (List.append_ne_nil_of_right_ne_nil _ (List.cons_ne_nil _ _))
  | comma _ =>
      cases h with
      | separator hsup _ => exact .item _ hsup
  | close _ =>
      cases h with
      | separator hsup hne => exact .listed hsup hne

theorem single_ne_memberOf {k : Kind} (hk : k ≠ .memberOf) :
    KindSet.single k ≠ .single .memberOf := by
  intro heq
  have hmem : k ∈ KindSet.single .memberOf := heq ▸ KindSet.mem_single.2 rfl
  exact hk (KindSet.mem_single.1 hmem)

namespace Registers

variable {r : Registers}

/-- After any updates with tokens of one kind, some of which may have failed, the registers hold a
comparison and are in step. -/
theorem isCoherent_of_reached (hr : Reached update Token.IsSingle blank r) :
    ∃ c : Comparison, c.IsProper ∧ r = c.registers ∧ r.IsCoherent := by
  have hstart : blank = Comparison.blank.registers := rfl
  rw [hstart] at hr
  obtain ⟨c, ⟨hc, hcoherent⟩, rfl⟩ := hr.exists_held
    (P := fun c => c.IsProper ∧ c.registers.IsCoherent) (fun c w t => c.run_update)
    (fun c w t d h ht hadd => by
      obtain ⟨hc, hcoherent⟩ := h
      obtain ⟨k, hk⟩ := ht
      exact ⟨hc.add hadd, isCoherent_of_takes hcoherent ((add_eq_ok_iff hk).1 hadd)⟩)
    ⟨trivial, .field⟩
  exact ⟨c, hc, rfl, hcoherent⟩

/-- The field is missing at the first stage and at no other. -/
theorem IsCoherent.field?_eq_none_iff (h : r.IsCoherent) : r.field? = none ↔ r.stage = .field := by
  cases h <;> simp

/-- A complete comparison has a field, and an operator comes with a symbol and a constant. -/
theorem IsCoherent.field?_ne_none (h : r.IsCoherent) (hdone : r.isComplete = true) :
    r.field? ≠ none ∧
      ∀ op, r.operator? = some op → op.operatorSymbol? ≠ none ∧ r.constants ≠ [] := by
  have hsymbol : ∀ k : Kind, k ∈ KindSet.comparison →
      (KindSet.single k).operatorSymbol? ≠ none := by
    intro k hk
    rw [KindSet.operatorSymbol?_single]
    revert hk
    cases k <;> decide
  cases h with
  | flag hb => simp
  | compared x hcmp hm hsup =>
      refine ⟨by simp, ?_⟩
      rintro _ ⟨⟩
      exact ⟨hsymbol _ hcmp, List.cons_ne_nil _ _⟩
  | listed hsup hne =>
      refine ⟨by simp, ?_⟩
      rintro _ ⟨⟩
      exact ⟨hsymbol _ (by decide), hne⟩
  | _ => simp [isComplete] at hdone

/-- A complete comparison is written with its constants that are not null. -/
theorem IsCoherent.args_eq (h : r.IsCoherent) (hdone : r.isComplete = true) :
    (Predicate.empty.write r.pieces).args = r.constants.filterMap Constant.value? := by
  rw [Predicate.args_write]
  cases h with
  | flag hb => rfl
  | @compared f k x hcmp hm hsup =>
      have hpieces : pieces ⟨.complete, some f, some (.single k), [x]⟩ =
          scalarPieces f (.single k) x :=
        if_neg (single_ne_memberOf hm)
      rw [hpieces, argument?_scalarPieces]
      cases x <;> rfl
  | @listed f cs hsup hne =>
      have hpieces : pieces ⟨.complete, some f, some (.single .memberOf), cs⟩ =
          [.text f.compared, .text "in", .text "("] ++ listPieces cs ++ [.text ")"] := by
        simp [pieces]
      rw [hpieces]
      simp [List.filterMap_cons, argument?_listPieces, Predicate.empty]
  | _ => simp [isComplete] at hdone

end Registers

end Comparison

/-! ### Calls -/

namespace Call

namespace Registers

/-- The registers that belong to each stage of a call. -/
inductive IsCoherent : Registers → Prop where
  | function : IsCoherent ⟨.function, none, none, none⟩
  | opening {k : Kind} : k ∈ KindSet.stringFunction →
      IsCoherent ⟨.opening, some (.single k), none, none⟩
  | field {k : Kind} : k ∈ KindSet.stringFunction →
      IsCoherent ⟨.field, some (.single k), none, none⟩
  | comma {f : Field} {k : Kind} : k ∈ KindSet.stringFunction → k ∈ f.supported →
      IsCoherent ⟨.comma, some (.single k), some f, none⟩
  | constant {f : Field} {k : Kind} : k ∈ KindSet.stringFunction → k ∈ f.supported →
      IsCoherent ⟨.constant, some (.single k), some f, none⟩
  | closing {f : Field} {k : Kind} (v : Value) : k ∈ KindSet.stringFunction → k ∈ f.supported →
      IsCoherent ⟨.closing, some (.single k), some f, some v⟩
  | complete {f : Field} {k : Kind} (v : Value) : k ∈ KindSet.stringFunction → k ∈ f.supported →
      IsCoherent ⟨.complete, some (.single k), some f, some v⟩

end Registers

variable {w : Whitelist} {c d : Call} {t : Token}

/-- A step of a call keeps the registers in step. -/
theorem isCoherent_of_takes (h : c.registers.IsCoherent) (hstep : c.Takes w t d) :
    d.registers.IsCoherent := by
  cases hstep with
  | name _ hk => exact .opening hk
  | opening _ =>
      cases h with
      | opening hk => exact .field hk
  | field _ hsup =>
      cases h with
      | field hk => exact .comma hk (KindSet.covers_single.1 hsup)
  | comma _ =>
      cases h with
      | comma hk hsup => exact .constant hk hsup
  | value _ =>
      cases h with
      | constant hk hsup => exact .closing _ hk hsup
  | close _ =>
      cases h with
      | closing _ hk hsup => exact .complete _ hk hsup

namespace Registers

variable {r : Registers}

/-- After any updates with tokens of one kind, some of which may have failed, the registers hold a
call and are in step. -/
theorem isCoherent_of_reached (hr : Reached update Token.IsSingle blank r) :
    ∃ c : Call, r = c.registers ∧ r.IsCoherent := by
  have hstart : blank = Call.blank.registers := rfl
  rw [hstart] at hr
  obtain ⟨c, hcoherent, rfl⟩ := hr.exists_held (P := fun c => c.registers.IsCoherent)
    (fun c w t => c.run_update)
    (fun c w t d hcoherent ht hadd => by
      obtain ⟨k, hk⟩ := ht
      exact isCoherent_of_takes hcoherent ((add_eq_ok_iff hk).1 hadd))
    .function
  exact ⟨c, rfl, hcoherent⟩

/-- The function and the field are there at the stages that look at them. -/
theorem IsCoherent.ne_none (h : r.IsCoherent) :
    (r.stage = .field → r.function? ≠ none) ∧ (r.stage = .constant → r.field? ≠ none) := by
  cases h <;> simp

/-- A complete call has a field, a function with a name and a value, and is written with the
value. -/
theorem IsCoherent.args_eq (h : r.IsCoherent) (hdone : r.isComplete = true) :
    r.field? ≠ none ∧ r.function?.bind KindSet.functionName? ≠ none ∧
      ∃ v, r.value? = some v ∧ (Predicate.empty.write r.pieces).args = [v] := by
  cases h with
  | @complete f k v hk hsup =>
      have hname : (KindSet.single k).functionName? ≠ none := by
        rw [KindSet.functionName?_single]
        revert hk
        cases k <;> decide
      refine ⟨Option.some_ne_none _, hname, v, rfl, ?_⟩
      have hpieces : pieces ⟨.complete, some (.single k), some f, some v⟩ =
          callPieces (k.functionName?.getD "") f v :=
        pieces_closed hk f v
      rw [Predicate.args_write, hpieces, argument?_callPieces]
      rfl
  | _ => simp [isComplete] at hdone

end Registers

end Call

/-- Null is not read where it is not allowed, whatever the kinds of the token. -/
theorem Field.readConstant_ne_null (f : Field) (t : Token) :
    f.readConstant false t ≠ .ok .null := by
  intro h
  unfold readConstant at h
  split at h
  · simp at h
  split at h
  · simp at h
  next hrefused =>
  split at h
  · next hnull =>
      simp [hnull] at hrefused
  split at h <;> simp at h

/-! ### Nodes -/

/-- A filter hands out complete nodes, and nothing else is written. -/
theorem Whitelist.isComplete_of_mem_nodes (w : Whitelist) (filter : String) {n : Node}
    (hn : n ∈ (w.nodes filter).items) : n.isComplete = true := by
  have hstart : Progress.initial.Holds w [] := .nothing _
  have hkinds := exists_isA_of_mem_scanFrom w 0 filter.toList
  obtain ⟨groups, hgroups, -⟩ := hstart.exists_groups hkinds (w.scan filter).refusal?
  exact ((List.forall₂_and_left _ _).1 hgroups).1 n hn

/-- **The registers of a node are in step.**  After any updates with tokens of one kind, some of
which may have failed, the registers are those that belong to the stage.  A field is missing before
the first token of a comparison only, nothing is missing where an update of a call looks at it, and
null is not read for a call.  A complete node has all that its output needs, and as many arguments
as it has constants that are not null; a filter writes no other nodes. -/
theorem Node.Registers.inStep_of_reached :
    (∀ r, Reached Comparison.Registers.update Token.IsSingle Comparison.Registers.blank r →
      r.IsCoherent ∧ (∃ c : Comparison, r = c.registers ∧ r.pieces = c.pieces) ∧
      (r.field? = none ↔ r.stage = .field) ∧
      (r.isComplete = true → r.field? ≠ none ∧
        (∀ op, r.operator? = some op → op.operatorSymbol? ≠ none ∧ r.constants ≠ []) ∧
        (Predicate.empty.write r.pieces).args = r.constants.filterMap Constant.value?)) ∧
    (∀ r, Reached Call.Registers.update Token.IsSingle Call.Registers.blank r →
      r.IsCoherent ∧ (∃ c : Call, r = c.registers ∧ r.pieces = c.pieces) ∧
      (r.stage = .field → r.function? ≠ none) ∧ (r.stage = .constant → r.field? ≠ none) ∧
      (∀ f t, r.field? = some f → f.readConstant false t ≠ .ok .null) ∧
      (r.isComplete = true → r.field? ≠ none ∧ r.function?.bind KindSet.functionName? ≠ none ∧
        ∃ v, r.value? = some v ∧ (Predicate.empty.write r.pieces).args = [v])) ∧
    (∀ (w : Whitelist) (filter : String), ∀ n ∈ (w.nodes filter).items, n.isComplete = true) := by
  refine ⟨?_, ?_, fun w filter n => w.isComplete_of_mem_nodes filter⟩
  · intro r hr
    obtain ⟨c, hc, rfl, h⟩ := Comparison.Registers.isCoherent_of_reached hr
    refine ⟨h, ⟨c, rfl, Comparison.pieces_registers hc⟩, h.field?_eq_none_iff, ?_⟩
    intro hdone
    obtain ⟨hfield, hoperator⟩ := h.field?_ne_none hdone
    exact ⟨hfield, hoperator, h.args_eq hdone⟩
  · intro r hr
    obtain ⟨c, rfl, h⟩ := Call.Registers.isCoherent_of_reached hr
    obtain ⟨hfunction, hfield⟩ := h.ne_none
    exact ⟨h, ⟨c, rfl, c.pieces_registers⟩, hfunction, hfield,
      fun f t _ => f.readConstant_ne_null t, h.args_eq⟩

/-- A list with a refused comma, a null and a text. -/
def listTokens : List Token :=
  [⟨.single .field, 0, "name"⟩, ⟨.single .memberOf, 5, "in"⟩, ⟨.single .openParen, 8, "("⟩,
    ⟨.single .comma, 9, ","⟩, ⟨.single .nullWord, 10, "null"⟩, ⟨.single .comma, 14, ","⟩,
    ⟨.single .literal, 16, "'ann'"⟩, ⟨.single .closeParen, 21, ")"⟩]

/-- A call with a refused null before its value. -/
def callTokens : List Token :=
  [⟨.single .contains, 0, "contains"⟩, ⟨.single .openParen, 8, "("⟩, ⟨.single .field, 9, "name"⟩,
    ⟨.single .comma, 13, ","⟩, ⟨.single .nullWord, 15, "null"⟩, ⟨.single .literal, 20, "'x'"⟩,
    ⟨.single .closeParen, 23, ")"⟩]

/-- A list and a call, each with a token that is refused on the way. -/
theorem Node.Registers.inStep_of_reached_people :
    ∃ r s, Reached Comparison.Registers.update Token.IsSingle Comparison.Registers.blank r ∧
      r.isComplete = true ∧ r.constants = [.null, .value (.string (some "ANN"))] ∧ r.IsCoherent ∧
      (Predicate.empty.write r.pieces).args = [.string (some "ANN")] ∧
      Reached Call.Registers.update Token.IsSingle Call.Registers.blank s ∧
      s.isComplete = true ∧ s.IsCoherent ∧
      (Predicate.empty.write s.pieces).args = [.string (some "X")] := by
  have hlist : Reached Comparison.Registers.update Token.IsSingle Comparison.Registers.blank
      (afterAll Comparison.Registers.update .people listTokens .blank) :=
    Reached.refl.afterAll _ (by simp [listTokens, Token.IsSingle, Token.IsA])
  have hcall : Reached Call.Registers.update Token.IsSingle Call.Registers.blank
      (afterAll Call.Registers.update .people callTokens .blank) :=
    Reached.refl.afterAll _ (by simp [callTokens, Token.IsSingle, Token.IsA])
  have hlistDone : (afterAll Comparison.Registers.update .people listTokens .blank).isComplete =
      true := by
    decide +kernel
  have hcallDone : (afterAll Call.Registers.update .people callTokens .blank).isComplete =
      true := by
    decide +kernel
  have hconstants : (afterAll Comparison.Registers.update .people listTokens .blank).constants =
      [.null, .value (.string (some "ANN"))] := by
    decide +kernel
  have hvalue : (afterAll Call.Registers.update .people callTokens .blank).value? =
      some (.string (some "X")) := by
    decide +kernel
  obtain ⟨hlistStep, -, -, hlistArgs⟩ := inStep_of_reached.1 _ hlist
  obtain ⟨hcallStep, -, -, -, -, hcallArgs⟩ := inStep_of_reached.2.1 _ hcall
  refine ⟨_, _, hlist, hlistDone, hconstants, hlistStep, ?_, hcall, hcallDone, hcallStep, ?_⟩
  · rw [(hlistArgs hlistDone).2.2, hconstants]
    rfl
  · obtain ⟨-, -, v, hv, hargs⟩ := hcallArgs hcallDone
    rw [hvalue] at hv
    obtain rfl := Option.some.inj hv
    exact hargs

end FilterQuery
