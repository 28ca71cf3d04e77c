/-
**Renaming and guarding are a matter of presentation.**

A field may have another name in the output, and its comparisons may be guarded against null there.
Neither has any part in reading a filter.  If both are taken away from the registered fields, the
reading goes through the same states without them: it accepts the same tokens, hands out the same
nodes without them, and is refused for the same cause, which names fields as they are registered.
The values of a predicate are those of its nodes, so they are the same as well.

Main definitions:

* `Field.unadorned` — a field that is neither renamed nor guarded;
* `Comparison.unadorned`, `Call.unadorned`, `Node.unadorned`, `Progress.unadorned` — nodes and
  states of such fields;
* `Whitelist.unadorned`, `Whitelist.Strips` — a whitelist of such fields, and one that finds them.

Main results:

* `Comparison.add_unadorned`, `Call.add_unadorned`, `Progress.accept_unadorned` — the steps of nodes
  and states are the same;
* `Whitelist.nodes_of_strips` — so are the nodes of a filter and its refusal;
* `Whitelist.args_parse_eq_of_unadorned` — **names in the output and guards decide neither whether a
  filter is refused, nor for what, nor the values of its predicate**.
-/

import FilterQuery.Proofs.Completeness
import FilterQuery.Proofs.Concatenation

set_option relaxedAutoImplicit false
set_option autoImplicit false

namespace FilterQuery

/-! ### Fields without presentation -/

namespace Field

/-- The field, neither renamed nor guarded. -/
def unadorned (f : Field) : Field :=
  { f with renamed? := none, checkNotNull := false }

@[simp] theorem type_unadorned (f : Field) : f.unadorned.type = f.type := rfl

@[simp] theorem readConstant_unadorned (f : Field) (allowNull : Bool) (t : Token) :
    f.unadorned.readConstant allowNull t = f.readConstant allowNull t := rfl

end Field

/-- The comparison of the field without presentation. -/
def Comparison.unadorned : Comparison → Comparison
  | .blank => .blank
  | .flag f => .flag f.unadorned
  | .named f => .named f.unadorned
  | .operated f op => .operated f.unadorned op
  | .compared f op c => .compared f.unadorned op c
  | .listed f cs stage => .listed f.unadorned cs stage

/-- The call on the field without presentation. -/
def Call.unadorned : Call → Call
  | .blank => .blank
  | .named fn => .named fn
  | .opened fn => .opened fn
  | .fielded fn f => .fielded fn f.unadorned
  | .separated fn f => .separated fn f.unadorned
  | .valued fn f v => .valued fn f.unadorned v
  | .closed fn f v => .closed fn f.unadorned v

/-- The node of fields without presentation. -/
def Node.unadorned : Node → Node
  | .comparison c => .comparison c.unadorned
  | .call c => .call c.unadorned
  | .logical kinds => .logical kinds
  | .openParen t => .openParen t
  | .closeParen t => .closeParen t

/-- The state with its pending node without presentation. -/
def Progress.unadorned (p : Progress) : Progress :=
  ⟨p.cursor, p.pending?.map Node.unadorned, p.last?⟩

/-- The fields without presentation. -/
def Whitelist.unadorned (w : Whitelist) : Whitelist where
  fields := w.fields.map Field.unadorned
  nodup_keys := by
    rw [List.map_map]
    exact w.nodup_keys

/-- The one whitelist finds what the other one finds, without presentation. -/
def Whitelist.Strips (w u : Whitelist) : Prop :=
  ∀ name, u.find? name = (w.find? name).map Field.unadorned

/-- A whitelist of the same fields without presentation, in any order, finds them. -/
theorem Whitelist.strips_of_mem_iff {w u : Whitelist}
    (h : ∀ g, g ∈ u.fields ↔ g ∈ w.fields.map Field.unadorned) : w.Strips u := by
  intro name
  ext g
  rw [find?_eq_some_iff, Option.map_eq_some_iff, h, List.mem_map]
  constructor
  · rintro ⟨⟨f, hf, rfl⟩, hkey⟩
    exact ⟨f, find?_eq_some_iff.2 ⟨hf, hkey⟩, rfl⟩
  · rintro ⟨f, hfind, rfl⟩
    obtain ⟨hf, hkey⟩ := find?_eq_some_iff.1 hfind
    exact ⟨⟨f, hf, rfl⟩, hkey⟩

/-! ### Results -/

theorem map_bind_eq {ε α β γ : Type} (x : Except ε α) (f : α → Except ε β) (g : β → γ) :
    (x.bind f).map g = x.bind fun a => (f a).map g := by
  cases x <;> rfl

theorem bind_map_eq {ε α β γ : Type} (x : Except ε α) (f : α → β) (g : β → Except ε γ) :
    (x.map f).bind g = x.bind fun a => g (f a) := by
  cases x <;> rfl

/-! ### Tokens -/

namespace Whitelist.Strips

variable {w u : Whitelist}

theorem contains_eq (h : w.Strips u) (name : String) : u.contains name = w.contains name := by
  rw [contains, contains, h name, Option.isSome_map]

theorem fieldOf_eq (h : w.Strips u) (t : Token) :
    u.fieldOf t = (w.fieldOf t).map Field.unadorned := by
  unfold fieldOf resolve
  rw [h t.text]
  split
  · cases w.find? t.text <;> rfl
  · rfl

end Whitelist.Strips

/-! ### Nodes -/

section Nodes

variable {w u : Whitelist}

theorem Comparison.takeOperator_unadorned (f : Field) (t : Token) :
    takeOperator f.unadorned t = (takeOperator f t).map unadorned := by
  unfold takeOperator
  rw [apply_ite (Except.map unadorned), apply_ite (Except.map unadorned),
    apply_ite (Except.map unadorned)]
  rfl

/-- A comparison takes the same tokens without presentation. -/
theorem Comparison.add_unadorned (h : w.Strips u) (c : Comparison) (t : Token) :
    c.unadorned.add u t = (c.add w t).map unadorned := by
  cases c with
  | blank =>
      simp only [unadorned, add, h.fieldOf_eq, map_map_eq]
      congr 1
      funext f
      rw [Field.type_unadorned]
      split <;> rfl
  | flag f => exact takeOperator_unadorned f t
  | named f => exact takeOperator_unadorned f t
  | operated f op =>
      simp only [unadorned, add, Field.readConstant_unadorned, map_map_eq]
  | compared f op c => rfl
  | listed f cs stage =>
      cases stage with
      | opening =>
          simp only [unadorned, add, apply_ite (Except.map unadorned)]
          rfl
      | item => simp only [unadorned, add, Field.readConstant_unadorned, map_map_eq]
      | separator =>
          simp only [unadorned, add, apply_ite (Except.map unadorned)]
          rfl
      | closed => rfl

/-- A call takes the same tokens without presentation. -/
theorem Call.add_unadorned (h : w.Strips u) (c : Call) (t : Token) :
    c.unadorned.add u t = (c.add w t).map unadorned := by
  have hexpected : c.unadorned.expected = c.expected := by cases c <;> rfl
  unfold add
  rw [hexpected, apply_ite (Except.map unadorned)]
  congr 1
  cases c with
  | opened fn =>
      simp only [unadorned, takeField, h.fieldOf_eq, bind_map_eq, map_bind_eq,
        apply_ite (Except.map unadorned)]
      rfl
  | separated fn f =>
      simp only [unadorned, takeValue, Field.readConstant_unadorned, map_bind_eq]
      congr 1
      funext c
      cases c <;> rfl
  | _ => rfl

namespace Node

@[simp] theorem canAdd_unadorned (n : Node) (t : Token) : n.unadorned.canAdd t = n.canAdd t := by
  cases n with
  | comparison c => cases c <;> rfl
  | call c => cases c <;> rfl
  | _ => rfl

@[simp] theorem isComplete_unadorned (n : Node) : n.unadorned.isComplete = n.isComplete := by
  cases n with
  | comparison c => cases c <;> rfl
  | call c => cases c <;> rfl
  | _ => rfl

theorem add_unadorned (h : w.Strips u) (n : Node) (t : Token) :
    n.unadorned.add u t = (n.add w t).map unadorned := by
  cases n with
  | comparison c => simp only [unadorned, add, Comparison.add_unadorned h, map_map_eq]
  | call c => simp only [unadorned, add, Call.add_unadorned h, map_map_eq]
  | _ => rfl

end Node

/-! ### Values in the output -/

theorem Comparison.argument?_pieces_unadorned (c : Comparison) :
    c.unadorned.pieces.filterMap Piece.argument? = c.pieces.filterMap Piece.argument? := by
  cases c with
  | compared f op c => simp only [unadorned, pieces, argument?_scalarPieces]
  | listed f cs stage => simp [unadorned, pieces, List.filterMap_cons]
  | _ => rfl

theorem Call.argument?_pieces_unadorned (c : Call) :
    c.unadorned.pieces.filterMap Piece.argument? = c.pieces.filterMap Piece.argument? := by
  have hfield : c.unadorned.field? = c.field?.map Field.unadorned := by cases c <;> rfl
  have hfunction : c.unadorned.function? = c.function? := by cases c <;> rfl
  have hvalue : c.unadorned.value? = c.value? := by cases c <;> rfl
  rw [pieces, pieces, hfield, hfunction, hvalue]
  cases c.field? with
  | none => rfl
  | some f =>
      cases c.function?.bind KindSet.functionName? with
      | none => rfl
      | some name =>
          cases c.value? with
          | none => rfl
          | some v => exact (argument?_callPieces _ _ v).trans (argument?_callPieces _ f v).symm

/-- The output of a node has the same values without presentation. -/
theorem Node.argument?_pieces_unadorned (n : Node) :
    n.unadorned.pieces.filterMap Piece.argument? = n.pieces.filterMap Piece.argument? := by
  cases n with
  | comparison c => exact c.argument?_pieces_unadorned
  | call c => exact c.argument?_pieces_unadorned
  | _ => rfl

/-! ### Readings -/

theorem Cursor.start_unadorned (h : w.Strips u) (c : Cursor) (t : Token) :
    c.start u t = (c.start w t).map fun r => (r.1, r.2.unadorned) := by
  have hcomparison := Comparison.add_unadorned h .blank t
  have hcall := Call.add_unadorned h .blank t
  simp only [Comparison.unadorned, Call.unadorned] at hcomparison hcall
  unfold start
  simp only [apply_ite (Except.map fun r : Cursor × Node => (r.1, r.2.unadorned)), map_map_eq,
    hcomparison, hcall]
  rfl

namespace Progress

variable {p : Progress} {t : Token}

theorem ended?_unadorned (p : Progress) (t : Token) :
    p.unadorned.ended? t = (p.ended? t).map Node.unadorned := by
  rw [ended?, unadorned, Option.filter_map]
  simp only [Function.comp_def, Node.canAdd_unadorned]
  rfl

theorem taker?_unadorned (p : Progress) (t : Token) :
    p.unadorned.taker? t = (p.taker? t).map Node.unadorned := by
  rw [taker?, unadorned, Option.filter_map]
  simp only [Function.comp_def, Node.canAdd_unadorned]
  rfl

/-- A state accepts the same tokens without presentation. -/
theorem accept_unadorned (h : w.Strips u) (p : Progress) (t : Token) :
    p.unadorned.accept u t = (p.accept w t).map unadorned := by
  unfold accept
  rw [taker?_unadorned]
  cases p.taker? t with
  | none =>
      simp only [Option.map_none, map_map_eq]
      rw [show p.unadorned.cursor = p.cursor from rfl, Cursor.start_unadorned h, map_map_eq]
      rfl
  | some n =>
      simp only [Option.map_some, map_map_eq]
      rw [Node.add_unadorned h, map_map_eq]
      rfl

theorem finish_unadorned (p : Progress) :
    p.unadorned.finish = p.finish.mapBoth Node.unadorned id := by
  obtain ⟨c, pending?, last?⟩ := p
  cases last? with
  | none => rfl
  | some last =>
      have hbalance : ∀ q : Progress, q.cursor = c →
          q.balance last = ((⟨c, pending?, some last⟩ : Progress).balance last).map id := by
        rintro q rfl
        rw [Option.map_id]
        rfl
      cases pending? with
      | none => exact congrArg (Yield.mk []) (hbalance _ rfl)
      | some n =>
          simp only [finish, unadorned, Option.map_some, Node.isComplete_unadorned]
          split
          · exact congrArg (Yield.mk [n.unadorned]) (hbalance _ rfl)
          · rfl

/-- A run hands out the same nodes without presentation, and is refused alike. -/
theorem run_unadorned (h : w.Strips u) (p : Progress) (broken? : Option Refusal)
    (ts : List Token) :
    p.unadorned.run u broken? ts = (p.run w broken? ts).mapBoth Node.unadorned id := by
  have htoList : ∀ n? : Option Node, (n?.map Node.unadorned).toList =
      n?.toList.map Node.unadorned := by
    intro n?
    cases n? <;> rfl
  induction ts generalizing p with
  | nil =>
      cases broken? with
      | none => exact finish_unadorned p
      | some r => rfl
  | cons t ts ih =>
      have hstep := accept_unadorned h p t
      cases hacc : p.accept w t with
      | error r =>
          rw [hacc] at hstep
          rw [run_cons_of_error hacc, run_cons_of_error hstep, ended?_unadorned, htoList]
          rfl
      | ok q =>
          rw [hacc] at hstep
          rw [run_cons_of_ok hacc, run_cons_of_ok hstep, ended?_unadorned, htoList, ih,
            Yield.mapBoth_prepend]

end Progress

end Nodes

/-! ### Filters -/

namespace Whitelist

variable {w u v : Whitelist}

/-- A filter has the same nodes without presentation, and is refused alike. -/
theorem nodes_of_strips (h : w.Strips u) (text : String) :
    u.nodes text = (w.nodes text).mapBoth Node.unadorned id := by
  rw [nodes, nodes, scan_eq_of_contains_eq h.contains_eq]
  exact Progress.run_unadorned h .initial _ _

theorem args_ofNodes_unadorned (ns : List Node) :
    (Predicate.ofNodes (ns.map Node.unadorned)).args = (Predicate.ofNodes ns).args := by
  rw [Predicate.ofNodes, Predicate.ofNodes, Predicate.args_write, Predicate.args_write]
  congr 1
  induction ns with
  | nil => rfl
  | cons n ns ih =>
      rw [List.map_cons, List.flatMap_cons, List.flatMap_cons, List.filterMap_append,
        List.filterMap_append, ih, Node.argument?_pieces_unadorned]

/-- The values of a predicate are the same without presentation, and so is a refusal. -/
theorem args_parse_of_strips (h : w.Strips u) (filter : Option String) :
    (u.parse filter).map (Option.map Predicate.args) =
      (w.parse filter).map (Option.map Predicate.args) := by
  cases filter with
  | none => rfl
  | some text =>
      have hnodes : (u.nodes text).toExcept =
          (w.nodes text).toExcept.map (List.map Node.unadorned) := by
        rw [nodes_of_strips h]
        unfold Yield.toExcept Yield.mapBoth
        rw [Option.map_id]
        dsimp only [id]
        cases (w.nodes text).refusal? <;> rfl
      simp only [parse, hnodes, apply_ite (Except.map (Option.map Predicate.args)), map_map_eq,
        Option.map_some, args_ofNodes_unadorned]

/-- **Names in the output and guards decide neither whether a filter is refused, nor for what, nor
the values of its predicate.**  Two whitelists whose fields are the same without them have no
predicate for the same filters, have predicates with the same values for the same filters, and
refuse the others with the same refusal. -/
theorem args_parse_eq_of_unadorned
    (h : ∀ g, g ∈ w.fields.map Field.unadorned ↔ g ∈ v.fields.map Field.unadorned)
    (filter : Option String) :
    (w.parse filter).map (Option.map Predicate.args) =
      (v.parse filter).map (Option.map Predicate.args) := by
  have hw : w.Strips w.unadorned := strips_of_mem_iff fun g => Iff.rfl
  have hv : v.Strips w.unadorned := strips_of_mem_iff h
  rw [← args_parse_of_strips hw, args_parse_of_strips hv]

/-- The fields of `people` in another order, with other names in the output and other guards. -/
def staff : Whitelist where
  fields :=
    [{ Field.ofType "age" .long with renamed? := some "Age", checkNotNull := true },
      { Field.ofType "active" .bool with renamed? := some "Status.Active" },
      { Field.ofType "name" .string with
        ignoreCase := true
        supported := KindSet.comparison.union .stringFunction }]
  nodup_keys := by decide +kernel

/-- Two predicates with different texts and the same values, and one refusal of both. -/
theorem args_parse_eq_of_unadorned_staff :
    (∀ g, g ∈ people.fields.map Field.unadorned ↔ g ∈ staff.fields.map Field.unadorned) ∧
      people.parse (some "active and name eq 'x'") =
        .ok (some ⟨"active && (Person.Name != null && Person.Name.ToUpper() == @0)",
          [.string (some "X")]⟩) ∧
      staff.parse (some "active and name eq 'x'") =
        .ok (some ⟨"Status.Active && name.ToUpper() == @0", [.string (some "X")]⟩) ∧
      (people.parse (some "active and name eq 'x'")).map (Option.map Predicate.args) =
        (staff.parse (some "active and name eq 'x'")).map (Option.map Predicate.args) ∧
      people.parse (some "active and name eq 5") = .error (.invalidValue "name" "5") ∧
      (people.parse (some "active and name eq 5")).map (Option.map Predicate.args) =
        (staff.parse (some "active and name eq 5")).map (Option.map Predicate.args) := by
  have hperm : (people.fields.map Field.unadorned).Perm (staff.fields.map Field.unadorned) :=
    @List.perm_append_comm Field [_] [_, _]
  have h : ∀ g, g ∈ people.fields.map Field.unadorned ↔
      g ∈ staff.fields.map Field.unadorned := fun g => hperm.mem_iff
  refine ⟨h, by decide +kernel, by decide +kernel, args_parse_eq_of_unadorned h _,
    by decide +kernel, args_parse_eq_of_unadorned h _⟩

end Whitelist

end FilterQuery
