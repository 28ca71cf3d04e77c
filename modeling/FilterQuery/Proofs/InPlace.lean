/-
**A refused token leaves a node in registers exactly as it was.**

A node in registers writes while it checks, so a check that fails after a write would leave a token
taken in part.  The proof compares each update with the step of `Comparison.add` or `Call.add`,
which gives a node or a refusal and cannot give both: from the registers that hold a node the
update writes those that hold the next one, or refuses the token and leaves all registers alone.
So whatever tokens came before, taken or refused, the registers hold a node.

Main definitions:

* `after`, `afterAll`, `Reached` — what is in the registers after tokens that may be refused;
* `outcome`, `Comparison.advanced`, `Call.advanced` — what an update makes of the result of a step;
* `Node.IsFresh` — the nodes before their first token.

Main results:

* `Comparison.run_update`, `Call.run_update`, `Node.run_update` — updates are steps;
* `Node.Registers.refused_of_reached` — **a refused token changes nothing**, and a token that may
  not be taken is refused as misplaced.
-/

import FilterQuery.Node.Registers
import FilterQuery.Proofs.Completeness

set_option relaxedAutoImplicit false
set_option autoImplicit false

namespace FilterQuery

/-! ### Updates that may fail -/

/-- The state after an update, which may have failed. -/
def after {σ : Type} (update : EStateM Refusal σ Unit) (s : σ) : σ :=
  match update.run s with
  | .ok () s' => s'
  | .error _ s' => s'

/-- The states after any updates with tokens of a class, each of which may have failed. -/
inductive Reached {σ : Type} (update : Whitelist → Token → EStateM Refusal σ Unit)
    (allowed : Token → Prop) (start : σ) : σ → Prop where
  | refl : Reached update allowed start start
  | step {s : σ} (w : Whitelist) {t : Token} : Reached update allowed start s → allowed t →
      Reached update allowed start (after (update w t) s)

/-- The state after tokens, each of which may have been refused. -/
def afterAll {σ : Type} (update : Whitelist → Token → EStateM Refusal σ Unit) (w : Whitelist)
    (ts : List Token) (s : σ) : σ :=
  ts.foldl (fun s t => after (update w t) s) s

section Reached

variable {α σ : Type} {update : Whitelist → Token → EStateM Refusal σ Unit}
  {allowed : Token → Prop} {start s : σ}

theorem Reached.afterAll (h : Reached update allowed start s) (w : Whitelist) {ts : List Token}
    (hts : ∀ t ∈ ts, allowed t) : Reached update allowed start (afterAll update w ts s) := by
  induction ts generalizing s with
  | nil => exact h
  | cons t ts ih =>
      have ht := h.step w (hts t List.mem_cons_self)
      exact ih ht fun u hu => hts u (List.mem_cons_of_mem t hu)

/-- The outcome of an update that writes the next state where there is one, and nothing where the
token is refused. -/
def outcome (hold : α → σ) (a : α) : Except Refusal α → EStateM.Result Refusal σ Unit
  | .ok b => .ok () (hold b)
  | .error r => .error r (hold a)

theorem after_of_outcome {update : EStateM Refusal σ Unit} {hold : α → σ} {a : α}
    {x : Except Refusal α} (h : update.run (hold a) = outcome hold a x) :
    (∃ b, x = .ok b ∧ after update (hold a) = hold b) ∨
      (∃ r, x = .error r ∧ after update (hold a) = hold a) := by
  unfold after
  rw [h]
  cases x with
  | ok b => exact .inl ⟨b, rfl, rfl⟩
  | error r => exact .inr ⟨r, rfl, rfl⟩

/-- Where updates are steps, a property that is true at the start and kept by steps is true of what
the state holds after any updates. -/
theorem Reached.exists_held {hold : α → σ} {add : α → Whitelist → Token → Except Refusal α}
    {P : α → Prop} {a : α}
    (hrun : ∀ a w t, (update w t).run (hold a) = outcome hold a (add a w t))
    (hadd : ∀ a w t b, P a → allowed t → add a w t = .ok b → P b) (ha : P a)
    (hr : Reached update allowed (hold a) s) : ∃ b, P b ∧ s = hold b := by
  induction hr with
  | refl => exact ⟨a, ha, rfl⟩
  | @step _ w t _ ht ih =>
      obtain ⟨b, hb, rfl⟩ := ih
      rcases after_of_outcome (hrun b w t) with ⟨c, hc, hafter⟩ | ⟨-, -, hafter⟩
      · exact ⟨c, hadd b w t c hb ht hc, hafter⟩
      · exact ⟨b, hb, hafter⟩

end Reached

theorem run_ofExcept {ε σ α : Type} (x : Except ε α) (s : σ) :
    (ofExcept x : EStateM ε σ α).run s =
      match x with
      | .ok a => .ok a s
      | .error e => .error e s := by
  cases x <;> rfl

/-- A write after an action is left out where the action fails. -/
theorem run_bind_modify {ε σ α : Type} (x : EStateM ε σ α) (write : α → σ → σ) (s : σ) :
    (x >>= fun a => modify (write a)).run s =
      match x.run s with
      | .ok a s' => .ok () (write a s')
      | .error e s' => .error e s' := by
  rw [EStateM.run_bind]
  cases x.run s <;> rfl

/-! ### Comparisons -/

namespace Comparison

variable {w : Whitelist} {t : Token} {c : Comparison} {f : Field}

/-- What a part of an update makes of the result of a step: all is written but the stage. -/
def advanced (c : Comparison) : Except Refusal Comparison → EStateM.Result Refusal Registers Stage
  | .ok d => .ok d.stage { d.registers with stage := c.stage }
  | .error e => .error e c.registers

theorem run_takeOperator (hc : c.IsBare f) :
    (Registers.takeOperator f t).run c.registers = advanced c (takeOperator f t) := by
  unfold Registers.takeOperator takeOperator
  cases t.isOf .comparison with
  | false => rfl
  | true =>
      cases f.supports t.kinds with
      | false => rfl
      | true =>
          by_cases hm : t.kinds = .single .memberOf
          · simp only [hm]
            rcases hc with rfl | rfl <;> rfl
          · simp only [hm]
            rcases hc with rfl | rfl <;> rfl

theorem run_takeConstant (allowNull : Bool) (r : Registers) :
    (Registers.takeConstant f allowNull t).run r =
      match f.readConstant allowNull t with
      | .ok x => .ok () { r with constants := r.constants ++ [x] }
      | .error e => .error e r := by
  rw [Registers.takeConstant, run_bind_modify, run_ofExcept]
  cases f.readConstant allowNull t <;> rfl

theorem run_advance_blank :
    (Registers.advance w t).run blank.registers = advanced blank (blank.add w t) := by
  simp only [Registers.advance, registers, Comparison.stage, EStateM.run_bind, EStateM.run_get,
    run_ofExcept, add]
  cases w.fieldOf t with
  | error r => rfl
  | ok f =>
      simp only [Except.map]
      cases f.type.isBoolean <;> rfl

theorem run_advance_bare (hc : c.IsBare f) :
    (Registers.advance w t).run c.registers = advanced c (c.add w t) := by
  have hadvance : (Registers.advance w t).run c.registers =
      (Registers.takeOperator f t).run c.registers := by
    rcases hc with rfl | rfl <;> rfl
  have hadd : c.add w t = takeOperator f t := by
    rcases hc with rfl | rfl <;> rfl
  rw [hadvance, run_takeOperator hc, hadd]

theorem run_advance_operated (op : KindSet) :
    (Registers.advance w t).run (operated f op).registers =
      advanced (operated f op) ((operated f op).add w t) := by
  have hadvance : (Registers.advance w t).run (operated f op).registers =
      (do
        Registers.takeConstant f (KindSet.equality.covers op) t
        return Stage.complete).run (operated f op).registers :=
    rfl
  rw [hadvance, EStateM.run_bind, run_takeConstant, add]
  cases f.readConstant (KindSet.equality.covers op) t <;> rfl

theorem run_advance_listed (cs : List Constant) (stage : ListStage) :
    (Registers.advance w t).run (listed f cs stage).registers =
      advanced (listed f cs stage) ((listed f cs stage).add w t) := by
  cases stage with
  | opening =>
      simp only [Registers.advance, registers, Comparison.stage, field?, EStateM.run_bind,
        EStateM.run_get, add]
      cases t.is .openParen <;> rfl
  | item =>
      have hadvance : (Registers.advance w t).run (listed f cs .item).registers =
          (do
            Registers.takeConstant f true t
            return Stage.separator).run (listed f cs .item).registers :=
        rfl
      rw [hadvance, EStateM.run_bind, run_takeConstant, add]
      cases f.readConstant true t <;> rfl
  | separator =>
      simp only [Registers.advance, registers, Comparison.stage, field?, EStateM.run_bind,
        EStateM.run_get, add]
      cases t.is .comma with
      | true => rfl
      | false => cases t.is .closeParen <;> rfl
  | closed => rfl

theorem run_advance (c : Comparison) :
    (Registers.advance w t).run c.registers = advanced c (c.add w t) := by
  cases c with
  | blank => exact run_advance_blank
  | flag f => exact run_advance_bare (.inl rfl)
  | named f => exact run_advance_bare (.inr rfl)
  | operated f op => exact run_advance_operated op
  | compared f op x => rfl
  | listed f cs stage => exact run_advance_listed cs stage

/-- The update of a comparison in registers is a step of the comparison. -/
theorem run_update (c : Comparison) :
    (Registers.update w t).run c.registers = outcome registers c (c.add w t) := by
  rw [Registers.update, run_bind_modify, run_advance]
  cases c.add w t <;> rfl

theorem canAdd_registers (c : Comparison) (t : Token) : c.registers.canAdd t = c.canAdd t := by
  cases c with
  | listed f cs stage => cases stage <;> rfl
  | _ => rfl

theorem isComplete_registers (c : Comparison) : c.registers.isComplete = c.isComplete := by
  cases c with
  | listed f cs stage => cases stage <;> rfl
  | _ => rfl

/-- A token that a comparison may not take is refused as misplaced. -/
theorem add_of_not_canAdd (h : c.canAdd t = false) : c.add w t = .error t.misplaced := by
  cases c with
  | flag f =>
      have hop : t.isOf .comparison = false := h
      simp [add, takeOperator, hop]
  | compared f op x => rfl
  | listed f cs stage =>
      cases stage with
      | closed => rfl
      | _ => simp [canAdd] at h
  | _ => simp [canAdd] at h

/-- A comparison with one constant has another operator than a list. -/
def IsProper : Comparison → Prop
  | .operated _ op => op ≠ .single .memberOf
  | .compared _ op _ => op ≠ .single .memberOf
  | _ => True

theorem isProper_of_takeOperator {d : Comparison} (h : takeOperator f t = .ok d) : d.IsProper := by
  unfold takeOperator at h
  split at h
  · simp at h
  split at h
  · simp at h
  split at h
  · obtain rfl := Except.ok.inj h
    trivial
  · next hm =>
      obtain rfl := Except.ok.inj h
      exact hm

/-- A step to a comparison with one constant sets its operator or keeps it. -/
theorem IsProper.add {d : Comparison} (hc : c.IsProper) (h : c.add w t = .ok d) : d.IsProper := by
  cases c with
  | blank =>
      obtain ⟨f, -, rfl⟩ := map_eq_ok_iff.1 h
      cases f.type.isBoolean <;> trivial
  | flag f => exact isProper_of_takeOperator h
  | named f => exact isProper_of_takeOperator h
  | operated f op =>
      obtain ⟨x, -, rfl⟩ := map_eq_ok_iff.1 h
      exact hc
  | compared f op x => simp [Comparison.add] at h
  | listed f cs stage =>
      cases stage with
      | opening =>
          simp only [Comparison.add] at h
          split at h
          · obtain rfl := Except.ok.inj h
            trivial
          · simp at h
      | item =>
          obtain ⟨x, -, rfl⟩ := map_eq_ok_iff.1 h
          trivial
      | separator =>
          simp only [Comparison.add] at h
          split at h
          · obtain rfl := Except.ok.inj h
            trivial
          split at h
          · obtain rfl := Except.ok.inj h
            trivial
          · simp at h
      | closed => simp [Comparison.add] at h

theorem pieces_registers (hc : c.IsProper) : c.registers.pieces = c.pieces := by
  cases c with
  | operated f op =>
      have hop : op ≠ .single .memberOf := hc
      simp [registers, Registers.pieces, field?, operator?, constants, pieces, hop]
  | compared f op x =>
      have hop : op ≠ .single .memberOf := hc
      simp [registers, Registers.pieces, field?, operator?, constants, pieces, hop]
  | listed f cs stage => simp [registers, Registers.pieces, field?, operator?, constants, pieces]
  | _ => rfl

end Comparison

/-! ### Calls -/

namespace Call

variable {w : Whitelist} {t : Token} {c : Call} {fn : KindSet} {f : Field}

/-- What a part of an update makes of the result of a step: all is written but the stage. -/
def advanced (c : Call) : Except Refusal Call → EStateM.Result Refusal Registers Stage
  | .ok d => .ok d.stage { d.registers with stage := c.stage }
  | .error e => .error e c.registers

theorem run_takeField :
    (Registers.takeField w t).run (opened fn).registers =
      advanced (opened fn) (takeField w fn t) := by
  simp only [Registers.takeField, EStateM.run_bind, EStateM.run_get, run_ofExcept, takeField]
  cases w.fieldOf t with
  | error r => rfl
  | ok f =>
      simp only [Except.bind, registers, function?]
      cases f.supports fn <;> rfl

theorem run_takeValue :
    (Registers.takeValue t).run (separated fn f).registers =
      advanced (separated fn f) (takeValue fn f t) := by
  simp only [Registers.takeValue, EStateM.run_bind, EStateM.run_get, registers, field?,
    run_ofExcept, takeValue]
  cases f.readConstant false t with
  | error r => rfl
  | ok x => cases x <;> rfl

theorem isOf_stage_expected (c : Call) (t : Token) :
    t.isOf c.registers.stage.expected = t.isOf c.expected := by
  cases c <;> rfl

theorem run_advance (c : Call) :
    (Registers.advance w t).run c.registers = advanced c (c.add w t) := by
  simp only [Registers.advance, EStateM.run_bind, EStateM.run_get, isOf_stage_expected, add]
  cases t.isOf c.expected with
  | false => cases c <;> rfl
  | true =>
      cases c with
      | opened fn => exact run_takeField
      | separated fn f => exact run_takeValue
      | _ => rfl

/-- The update of a call in registers is a step of the call. -/
theorem run_update (c : Call) :
    (Registers.update w t).run c.registers = outcome registers c (c.add w t) := by
  rw [Registers.update, run_bind_modify, run_advance]
  cases c.add w t <;> rfl

theorem canAdd_registers (c : Call) (t : Token) : c.registers.canAdd t = c.canAdd t := by
  cases c <;> rfl

theorem isComplete_registers (c : Call) : c.registers.isComplete = c.isComplete := by
  cases c <;> rfl

theorem pieces_registers (c : Call) : c.registers.pieces = c.pieces := rfl

/-- A token that a call may not take is refused as misplaced. -/
theorem add_of_not_canAdd (h : c.canAdd t = false) : c.add w t = .error t.misplaced := by
  cases c with
  | closed fn f v =>
      have hnone : t.isOf ∅ = false := by
        simp [Bool.eq_false_iff, Token.isOf, KindSet.meets_iff]
      simp [add, expected, hnone]
  | _ => simp [canAdd, isComplete] at h

end Call

/-! ### Nodes -/

namespace Node

variable {w : Whitelist} {t : Token} {n : Node}

/-- The node has taken no token yet, or consists of one token. -/
inductive IsFresh : Node → Prop where
  | comparison : IsFresh (.comparison .blank)
  | call : IsFresh (.call .blank)
  | logical (kinds : KindSet) : IsFresh (.logical kinds)
  | openParen (t : Token) : IsFresh (.openParen t)
  | closeParen (t : Token) : IsFresh (.closeParen t)

/-- The update of a node in registers is a step of the node. -/
theorem run_update (n : Node) (w : Whitelist) (t : Token) :
    (Registers.update w t).run n.registers = outcome registers n (n.add w t) := by
  cases n with
  | comparison c =>
      change around _ ((Comparison.Registers.update w t).run c.registers) = _
      rw [Comparison.run_update, add]
      cases c.add w t <;> rfl
  | call c =>
      change around _ ((Call.Registers.update w t).run c.registers) = _
      rw [Call.run_update, add]
      cases c.add w t <;> rfl
  | _ => rfl

theorem canAdd_registers (n : Node) (t : Token) : n.registers.canAdd t = n.canAdd t := by
  cases n with
  | comparison c => exact c.canAdd_registers t
  | call c => exact c.canAdd_registers t
  | _ => rfl

theorem isComplete_registers (n : Node) : n.registers.isComplete = n.isComplete := by
  cases n with
  | comparison c => exact c.isComplete_registers
  | call c => exact c.isComplete_registers
  | _ => rfl

/-- A token that a node may not take is refused as misplaced. -/
theorem add_of_not_canAdd (h : n.canAdd t = false) : n.add w t = .error t.misplaced := by
  cases n with
  | comparison c => exact map_eq_error_iff.2 (Comparison.add_of_not_canAdd h)
  | call c => exact map_eq_error_iff.2 (Call.add_of_not_canAdd h)
  | _ => rfl

/-- A node whose comparison with one constant has another operator than a list. -/
def IsProper : Node → Prop
  | .comparison c => c.IsProper
  | _ => True

theorem IsFresh.isProper (h : n.IsFresh) : n.IsProper := by
  cases h <;> trivial

theorem IsProper.add {m : Node} (hn : n.IsProper) (h : n.add w t = .ok m) : m.IsProper := by
  cases n with
  | comparison c =>
      obtain ⟨d, hd, rfl⟩ := map_eq_ok_iff.1 h
      exact Comparison.IsProper.add hn hd
  | call c =>
      obtain ⟨d, -, rfl⟩ := map_eq_ok_iff.1 h
      trivial
  | _ => simp [Node.add] at h

theorem pieces_registers (hn : n.IsProper) : n.registers.pieces = n.pieces := by
  cases n with
  | comparison c => exact Comparison.pieces_registers hn
  | _ => rfl

namespace Registers

variable {r : Registers} {allowed : Token → Prop}

/-- Whatever tokens come, the registers hold a node. -/
theorem exists_node_of_reached (hn : n.IsProper)
    (hr : Reached update allowed n.registers r) : ∃ m : Node, m.IsProper ∧ r = m.registers :=
  hr.exists_held run_update (fun _ _ _ _ hm _ hadd => hm.add hadd) hn

/-- **A refused token changes nothing.**  After any tokens, taken or refused, the registers hold a
node.  An update that fails leaves every register as it was, it fails as misplaced where the token
may not be taken at all, and it does what a step of the node does. -/
theorem refused_of_reached (hn : n.IsFresh)
    (hr : Reached update (fun _ => True) n.registers r) (w : Whitelist) (t : Token) :
    (∀ e s, (update w t).run r = .error e s → s = r) ∧
      (r.canAdd t = false → (update w t).run r = .error (.misplaced t.text t.start) r) ∧
      ∃ m : Node, r = m.registers ∧ (update w t).run r = outcome registers m (m.add w t) ∧
        r.canAdd t = m.canAdd t ∧ r.isComplete = m.isComplete ∧ r.pieces = m.pieces := by
  obtain ⟨m, hm, rfl⟩ := exists_node_of_reached hn.isProper hr
  have hrun := run_update m w t
  refine ⟨?_, ?_, m, rfl, hrun, m.canAdd_registers t, m.isComplete_registers, pieces_registers hm⟩
  · intro e s hs
    rw [hrun] at hs
    cases hadd : m.add w t with
    | ok m' => simp [hadd, outcome] at hs
    | error e' =>
        rw [hadd] at hs
        cases hs
        rfl
  · intro hcan
    rw [canAdd_registers] at hcan
    rw [hrun, add_of_not_canAdd hcan]
    rfl

/-- The registers of a comparison after the field `name`. -/
def afterName : Registers :=
  afterAll update .people [⟨.single .field, 0, "NAME"⟩] (Node.comparison .blank).registers

/-- The registers of a comparison of `name` with a text. -/
def afterText : Registers :=
  afterAll update .people [⟨.single .equal, 5, "eq"⟩, ⟨.single .literal, 8, "'ann'"⟩] afterName

/-- A token of two kinds, one of which the field supports, is refused after the field.  A complete
comparison refuses a comma. -/
theorem refused_of_reached_name :
    Reached update (fun _ => True) (Node.comparison .blank).registers afterName ∧
      (update Whitelist.people ⟨.ofList [.equal, .comma], 5, "eq,"⟩).run afterName =
        .error (.unsupportedOperator "name" "eq,") afterName ∧
      Reached update (fun _ => True) (Node.comparison .blank).registers afterText ∧
      afterText.canAdd ⟨.single .comma, 13, ","⟩ = false ∧
      (update Whitelist.people ⟨.single .comma, 13, ","⟩).run afterText =
        .error (.misplaced "," 13) afterText ∧
      afterText.render = ⟨"(Person.Name != null && Person.Name.ToUpper() == @0)",
        [.string (some "ANN")]⟩ := by
  have hname : Reached update (fun _ => True) (Node.comparison .blank).registers afterName :=
    Reached.refl.afterAll _ fun _ _ => trivial
  have htext : Reached update (fun _ => True) (Node.comparison .blank).registers afterText :=
    hname.afterAll _ fun _ _ => trivial
  have hcan : afterText.canAdd ⟨.single .comma, 13, ","⟩ = false := by decide +kernel
  have hmixed :
      (match (update Whitelist.people ⟨.ofList [.equal, .comma], 5, "eq,"⟩).run afterName with
        | .ok _ _ => none
        | .error e _ => some e) = some (.unsupportedOperator "name" "eq,") := by
    decide +kernel
  refine ⟨hname, ?_, htext, hcan, ?_, by decide +kernel⟩
  · split at hmixed
    · simp at hmixed
    · next e s hrun =>
        obtain rfl := Option.some.inj hmixed
        rw [hrun, (refused_of_reached .comparison hname _ _).1 _ _ hrun]
  · exact (refused_of_reached .comparison htext _ _).2.1 hcan

end Registers

end Node

end FilterQuery
