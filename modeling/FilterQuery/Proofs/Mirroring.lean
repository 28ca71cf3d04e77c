/-
**Two readings side by side.**

Whether a token is accepted depends on its kinds, on the field it names and on the value it stands
for, and on nothing else: its text and its position only enter the refusals and the parentheses
that are handed out.  Two readings whose tokens agree in these respects therefore stay in step, be
they accepted or refused.  They hand out the same comparisons, calls and operators, and what they
say of a text or a position is the same up to what counts as the same text and the same position.

Main definitions:

* `Likeness` — which texts and which positions count as the same;
* `Refusal.Mirrors`, `Token.Mirrors`, `Node.Mirrors`, `Progress.Mirrors` — refusals, tokens, nodes
  and states of two readings that are the same in this sense;
* `Mirrored` — results of both readings are values, or both are refusals.

Main results:

* `Progress.Mirrors.accept` — one step of both readings has mirrored results;
* `Progress.Mirrors.run` — so have the runs of both;
* `Progress.Mirrors.reads` — what the one reads without a refusal, so does the other;
* `Whitelist.parse_mirrored_of_scan` — filters with mirrored tokens have mirrored results.
-/

import FilterQuery.Proofs.Noninterference

set_option relaxedAutoImplicit false
set_option autoImplicit false

namespace FilterQuery

/-- Which texts and which positions count as the same in two readings. -/
structure Likeness where
  text : String → String → Prop
  position : Nat → Nat → Prop
  text_refl : ∀ s, text s s

/-! ### Results that are the same -/

/-- The refusals have one cause and concern the same texts and positions. -/
inductive Refusal.Mirrors (L : Likeness) : Refusal → Refusal → Prop where
  | unterminatedLiteral {i j : Nat} : L.position i j →
      Refusal.Mirrors L (.unterminatedLiteral i) (.unterminatedLiteral j)
  | unknownField {s t : String} : L.text s t →
      Refusal.Mirrors L (.unknownField s) (.unknownField t)
  | unsupportedOperator (field : String) {s t : String} : L.text s t →
      Refusal.Mirrors L (.unsupportedOperator field s) (.unsupportedOperator field t)
  | invalidValue (field : String) {s t : String} : L.text s t →
      Refusal.Mirrors L (.invalidValue field s) (.invalidValue field t)
  | misplaced {s t : String} {i j : Nat} : L.text s t → L.position i j →
      Refusal.Mirrors L (.misplaced s i) (.misplaced t j)
  | unbalanced {s t : String} {i j : Nat} : L.text s t → L.position i j →
      Refusal.Mirrors L (.unbalanced s i) (.unbalanced t j)
  | incomplete {s t : String} {i j : Nat} : L.text s t → L.position i j →
      Refusal.Mirrors L (.incomplete s i) (.incomplete t j)
  | ordering (fault : SortFault) : Refusal.Mirrors L (.ordering fault) (.ordering fault)
  | duplicateField (name : String) :
      Refusal.Mirrors L (.duplicateField name) (.duplicateField name)

/-- Both results are related values, or both are mirrored refusals. -/
inductive Mirrored (L : Likeness) {α β : Type} (R : α → β → Prop) :
    Except Refusal α → Except Refusal β → Prop where
  | ok {a : α} {b : β} : R a b → Mirrored L R (.ok a) (.ok b)
  | error {r s : Refusal} : r.Mirrors L s → Mirrored L R (.error r) (.error s)

namespace Mirrored

variable {L : Likeness} {α β γ δ : Type} {R : α → β → Prop} {S : γ → δ → Prop}

theorem map {f : α → γ} {g : β → δ} {x : Except Refusal α} {y : Except Refusal β}
    (h : Mirrored L R x y) (hfg : ∀ a b, R a b → S (f a) (g b)) :
    Mirrored L S (x.map f) (y.map g) := by
  cases h with
  | ok hab => exact .ok (hfg _ _ hab)
  | error hr => exact .error hr

theorem bind {f : α → Except Refusal γ} {g : β → Except Refusal δ} {x : Except Refusal α}
    {y : Except Refusal β} (h : Mirrored L R x y)
    (hfg : ∀ a b, R a b → Mirrored L S (f a) (g b)) : Mirrored L S (x.bind f) (y.bind g) := by
  cases h with
  | ok hab => exact hfg _ _ hab
  | error hr => exact .error hr

/-- A choice that both make alike. -/
theorem ite {c d : Prop} [Decidable c] [Decidable d] {x x' : Except Refusal α}
    {y y' : Except Refusal β} (hcd : c ↔ d) (h : Mirrored L R x y) (h' : Mirrored L R x' y') :
    Mirrored L R (if c then x else x') (if d then y else y') := by
  by_cases hc : c
  · rw [if_pos hc, if_pos (hcd.1 hc)]
    exact h
  · rw [if_neg hc, if_neg (mt hcd.2 hc)]
    exact h'

/-- With a value on one side there is a related one on the other. -/
theorem exists_ok {a : α} {y : Except Refusal β} (h : Mirrored L R (.ok a) y) :
    ∃ b, y = .ok b ∧ R a b := by
  cases h with
  | ok hab => exact ⟨_, rfl, hab⟩

/-- With a refusal on one side there is a mirrored one on the other. -/
theorem exists_error {r : Refusal} {y : Except Refusal β} (h : Mirrored L R (.error r) y) :
    ∃ s, y = .error s ∧ r.Mirrors L s := by
  cases h with
  | error hr => exact ⟨_, rfl, hr⟩

end Mirrored

/-! ### Tokens -/

/-- The text that a constant token stands for. -/
def Token.content (t : Token) : String :=
  if t.is .literal then t.literalValue else t.text

/-- The tokens are of the same kinds, name the same field and stand for the same value. -/
structure Token.Mirrors (w : Whitelist) (L : Likeness) (t u : Token) : Prop where
  kinds_eq : t.kinds = u.kinds
  text : L.text t.text u.text
  start : L.position t.start u.start
  find?_eq : t.is .field = true → w.find? t.text = w.find? u.text
  valueOf?_eq : ∀ f ∈ w.fields, f.acceptsConstant t.kinds = true → t.is .nullWord = false →
    f.valueOf? t.content = f.valueOf? u.content

namespace Token.Mirrors

variable {w : Whitelist} {L : Likeness} {t u : Token} {f : Field}

theorem isOf_eq (h : t.Mirrors w L u) (s : KindSet) : t.isOf s = u.isOf s := by
  rw [isOf, isOf, h.kinds_eq]

theorem is_eq (h : t.Mirrors w L u) (k : Kind) : t.is k = u.is k := by
  rw [is, is, h.kinds_eq]

theorem misplaced (h : t.Mirrors w L u) : t.misplaced.Mirrors L u.misplaced :=
  .misplaced h.text h.start

theorem invalidValue (h : t.Mirrors w L u) (f : Field) :
    (f.invalidValue t).Mirrors L (f.invalidValue u) :=
  .invalidValue f.name h.text

/-- Both tokens name the same registered field, or neither names one. -/
theorem fieldOf (h : t.Mirrors w L u) :
    Mirrored L (fun f g => f = g ∧ f ∈ w.fields) (w.fieldOf t) (w.fieldOf u) := by
  unfold Whitelist.fieldOf
  rw [← h.is_eq]
  cases hfield : t.is .field with
  | false => exact .error h.misplaced
  | true =>
      simp only [if_true, Whitelist.resolve]
      rw [← h.find?_eq hfield]
      cases hfind : w.find? t.text with
      | none => exact .error (.unknownField h.text)
      | some f => exact .ok ⟨rfl, (Whitelist.find?_eq_some_iff.1 hfind).1⟩

/-- Both tokens are the same constant of a registered field, or neither is one. -/
theorem readConstant (h : t.Mirrors w L u) (hf : f ∈ w.fields) (allowNull : Bool) :
    Mirrored L (· = ·) (f.readConstant allowNull t) (f.readConstant allowNull u) := by
  unfold Field.readConstant
  rw [← h.isOf_eq, ← h.is_eq, ← h.kinds_eq]
  refine .ite Iff.rfl (.error h.misplaced) ?_
  by_cases hrefused : (!f.acceptsConstant t.kinds || (t.is .nullWord && !allowNull)) = true
  · rw [if_pos hrefused, if_pos hrefused]
    exact .error (h.invalidValue f)
  · rw [if_neg hrefused, if_neg hrefused]
    have haccepts : f.acceptsConstant t.kinds = true := by
      by_contra hc
      simp [hc] at hrefused
    cases hnull : t.is .nullWord with
    | true => exact .ok rfl
    | false =>
        have hvalue := h.valueOf?_eq f hf haccepts hnull
        simp only [content, ← h.is_eq] at hvalue
        rw [← h.is_eq, ← hvalue]
        cases f.valueOf? (if t.is .literal = true then t.literalValue else t.text) with
        | none => exact .error (h.invalidValue f)
        | some v => exact .ok rfl

end Token.Mirrors

/-! ### Nodes -/

/-- The field of the comparison, if it has one, is registered. -/
def Comparison.IsRegistered (w : Whitelist) (c : Comparison) : Prop :=
  ∀ f ∈ c.field?, f ∈ w.fields

/-- The field of the call, if it has one, is registered. -/
def Call.IsRegistered (w : Whitelist) (c : Call) : Prop :=
  ∀ f ∈ c.field?, f ∈ w.fields

/-- The nodes are the same up to the tokens of their parentheses. -/
inductive Node.Mirrors (w : Whitelist) (L : Likeness) : Node → Node → Prop where
  | comparison {c : Comparison} : c.IsRegistered w →
      Node.Mirrors w L (.comparison c) (.comparison c)
  | call {c : Call} : c.IsRegistered w → Node.Mirrors w L (.call c) (.call c)
  | logical (kinds : KindSet) : Node.Mirrors w L (.logical kinds) (.logical kinds)
  | openParen {t u : Token} : t.Mirrors w L u → Node.Mirrors w L (.openParen t) (.openParen u)
  | closeParen {t u : Token} : t.Mirrors w L u → Node.Mirrors w L (.closeParen t) (.closeParen u)

section Nodes

variable {w : Whitelist} {L : Likeness} {t u : Token} {f : Field}

theorem Comparison.takeOperator_mirrored (h : t.Mirrors w L u) (hf : f ∈ w.fields) :
    Mirrored L (fun c d => c = d ∧ c.IsRegistered w) (takeOperator f t) (takeOperator f u) := by
  unfold takeOperator
  rw [← h.isOf_eq, ← h.kinds_eq]
  refine .ite Iff.rfl (.error h.misplaced) ?_
  refine .ite Iff.rfl (.error (.unsupportedOperator f.name h.text)) ?_
  exact .ite Iff.rfl (.ok ⟨rfl, by simpa [IsRegistered, field?] using hf⟩)
    (.ok ⟨rfl, by simpa [IsRegistered, field?] using hf⟩)

/-- A comparison takes mirrored tokens alike. -/
theorem Comparison.add_mirrored {c : Comparison} (h : t.Mirrors w L u) (hc : c.IsRegistered w) :
    Mirrored L (fun c d => c = d ∧ c.IsRegistered w) (c.add w t) (c.add w u) := by
  cases c with
  | blank =>
      refine h.fieldOf.map ?_
      rintro f g ⟨rfl, hf⟩
      refine ⟨rfl, ?_⟩
      split <;> simpa [IsRegistered, field?] using hf
  | flag f => exact takeOperator_mirrored h (hc f rfl)
  | named f => exact takeOperator_mirrored h (hc f rfl)
  | operated f op =>
      refine (h.readConstant (hc f rfl) _).map ?_
      rintro x y rfl
      exact ⟨rfl, hc⟩
  | compared f op x => exact .error h.misplaced
  | listed f cs stage =>
      cases stage with
      | opening =>
          simp only [add]
          rw [← h.is_eq]
          exact .ite Iff.rfl (.ok ⟨rfl, hc⟩) (.error h.misplaced)
      | item =>
          refine (h.readConstant (hc f rfl) _).map ?_
          rintro x y rfl
          exact ⟨rfl, hc⟩
      | separator =>
          simp only [add]
          rw [← h.is_eq, ← h.is_eq]
          refine .ite Iff.rfl (.ok ⟨rfl, hc⟩) ?_
          exact .ite Iff.rfl (.ok ⟨rfl, hc⟩) (.error h.misplaced)
      | closed => exact .error h.misplaced

theorem Call.takeField_mirrored (h : t.Mirrors w L u) (fn : KindSet) :
    Mirrored L (fun c d => c = d ∧ c.IsRegistered w) (takeField w fn t) (takeField w fn u) := by
  refine h.fieldOf.bind ?_
  rintro f g ⟨rfl, hf⟩
  refine .ite Iff.rfl (.ok ⟨rfl, by simpa [IsRegistered, field?] using hf⟩) ?_
  exact .error (.unsupportedOperator f.name (L.text_refl _))

theorem Call.takeValue_mirrored (h : t.Mirrors w L u) (hf : f ∈ w.fields) (fn : KindSet) :
    Mirrored L (fun c d => c = d ∧ c.IsRegistered w) (takeValue fn f t) (takeValue fn f u) := by
  refine (h.readConstant hf false).bind ?_
  rintro x y rfl
  cases x with
  | null => exact .error (.invalidValue f.name (L.text_refl _))
  | value v => exact .ok ⟨rfl, by simpa [IsRegistered, field?] using hf⟩

/-- A call takes mirrored tokens alike. -/
theorem Call.add_mirrored {c : Call} (h : t.Mirrors w L u) (hc : c.IsRegistered w) :
    Mirrored L (fun c d => c = d ∧ c.IsRegistered w) (c.add w t) (c.add w u) := by
  unfold add
  rw [← h.isOf_eq]
  refine .ite Iff.rfl (.error h.misplaced) ?_
  cases c with
  | blank =>
      rw [← h.kinds_eq]
      exact .ok ⟨rfl, hc⟩
  | named fn => exact .ok ⟨rfl, hc⟩
  | opened fn => exact takeField_mirrored h fn
  | fielded fn f => exact .ok ⟨rfl, hc⟩
  | separated fn f => exact takeValue_mirrored h (hc f rfl) fn
  | valued fn f v => exact .ok ⟨rfl, hc⟩
  | closed fn f v => exact .ok ⟨rfl, hc⟩

namespace Node.Mirrors

variable {n m : Node}

theorem canAdd_eq (h : n.Mirrors w L m) (ht : t.Mirrors w L u) : n.canAdd t = m.canAdd u := by
  cases h with
  | @comparison c _ =>
      cases c with
      | flag f => exact ht.isOf_eq _
      | _ => rfl
  | _ => rfl

theorem isComplete_eq (h : n.Mirrors w L m) : n.isComplete = m.isComplete := by
  cases h <;> rfl

/-- Mirrored nodes have the same output. -/
theorem pieces_eq (h : n.Mirrors w L m) : n.pieces = m.pieces := by
  cases h <;> rfl

theorem add (h : n.Mirrors w L m) (ht : t.Mirrors w L u) :
    Mirrored L (Node.Mirrors w L) (n.add w t) (m.add w u) := by
  cases h with
  | comparison hc =>
      refine (Comparison.add_mirrored ht hc).map ?_
      rintro c d ⟨rfl, hd⟩
      exact .comparison hd
  | call hc =>
      refine (Call.add_mirrored ht hc).map ?_
      rintro c d ⟨rfl, hd⟩
      exact .call hd
  | _ => exact .error ht.misplaced

end Node.Mirrors

/-- Mirrored tokens start mirrored nodes. -/
theorem Cursor.start_mirrored (h : t.Mirrors w L u) (c : Cursor) :
    Mirrored L (fun r s => r.1 = s.1 ∧ r.2.Mirrors w L s.2) (c.start w t) (c.start w u) := by
  unfold start
  rw [← h.isOf_eq, ← h.isOf_eq, ← h.kinds_eq]
  refine .ite Iff.rfl (.error h.misplaced) ?_
  refine .ite Iff.rfl ?_ ?_
  · refine (Comparison.add_mirrored h (by simp [Comparison.IsRegistered, Comparison.field?])).map ?_
    rintro n m ⟨rfl, hn⟩
    exact ⟨rfl, .comparison hn⟩
  refine .ite Iff.rfl ?_ ?_
  · refine (Call.add_mirrored h (by simp [Call.IsRegistered, Call.field?])).map ?_
    rintro n m ⟨rfl, hn⟩
    exact ⟨rfl, .call hn⟩
  refine .ite Iff.rfl (.ok ⟨rfl, .openParen h⟩) ?_
  refine .ite Iff.rfl ?_ ?_
  · exact .ite Iff.rfl (.error (.unbalanced h.text h.start)) (.ok ⟨rfl, .closeParen h⟩)
  refine .ite Iff.rfl (.ok ⟨rfl, .logical _⟩) ?_
  exact .ite Iff.rfl (.ok ⟨rfl, .logical _⟩) (.error h.misplaced)

end Nodes

/-! ### Readings -/

/-- The states agree up to the tokens they remember. -/
structure Progress.Mirrors (w : Whitelist) (L : Likeness) (p q : Progress) : Prop where
  cursor_eq : p.cursor = q.cursor
  pending : Option.Rel (Node.Mirrors w L) p.pending? q.pending?
  last : Option.Rel (Token.Mirrors w L) p.last? q.last?

/-- The items are mirrored one by one, and so are the refusals that end them. -/
structure Yield.Mirrors {α : Type} (R : α → α → Prop) (L : Likeness) (y z : Yield α) : Prop where
  items : List.Forall₂ R y.items z.items
  refusal : Option.Rel (Refusal.Mirrors L) y.refusal? z.refusal?

namespace Yield.Mirrors

variable {α β : Type} {R : α → α → Prop} {L : Likeness} {y z : Yield α}

theorem prepend (h : y.Mirrors R L z) {ys zs : List α} (hitems : List.Forall₂ R ys zs) :
    (y.prepend ys).Mirrors R L (z.prepend zs) :=
  ⟨List.rel_append hitems h.items, h.refusal⟩

/-- What is made of mirrored items is related if it is made alike. -/
theorem toExcept_map {S : β → β → Prop} {f : List α → β} (h : y.Mirrors R L z)
    (hf : ∀ as bs, List.Forall₂ R as bs → S (f as) (f bs)) :
    Mirrored L S (y.toExcept.map f) (z.toExcept.map f) := by
  obtain ⟨items, refusal?⟩ := y
  obtain ⟨items', refusal'?⟩ := z
  obtain ⟨hitems, hrefusal⟩ := h
  cases hrefusal with
  | none => exact .ok (hf _ _ hitems)
  | some hr => exact .error hr

end Yield.Mirrors

namespace Progress.Mirrors

variable {w : Whitelist} {L : Likeness} {p q p' : Progress} {t u : Token} {ts us : List Token}
  {ns : List Node}

theorem of_empty (L : Likeness) (c : Cursor) :
    (⟨c, none, none⟩ : Progress).Mirrors w L ⟨c, none, none⟩ :=
  ⟨rfl, .none, .none⟩

theorem taker? (h : p.Mirrors w L q) (ht : t.Mirrors w L u) :
    Option.Rel (Node.Mirrors w L) (p.taker? t) (q.taker? u) :=
  rel_filter h.pending fun _ _ hn => hn.canAdd_eq ht

theorem ended? (h : p.Mirrors w L q) (ht : t.Mirrors w L u) :
    Option.Rel (Node.Mirrors w L) (p.ended? t) (q.ended? u) :=
  rel_filter h.pending fun _ _ hn => congrArg not (hn.canAdd_eq ht)

/-- Mirrored states accept mirrored tokens alike. -/
theorem accept (h : p.Mirrors w L q) (ht : t.Mirrors w L u) :
    Mirrored L (Progress.Mirrors w L) (p.accept w t) (q.accept w u) := by
  have htaker := h.taker? ht
  unfold Progress.accept
  generalize p.taker? t = n? at htaker
  generalize q.taker? u = m? at htaker
  cases htaker with
  | some hn => exact (hn.add ht).map fun _ _ hm => ⟨h.cursor_eq, .some hm, .some ht⟩
  | none =>
      rw [← h.cursor_eq]
      exact (Cursor.start_mirrored ht p.cursor).map fun _ _ hr => ⟨hr.1, .some hr.2, .some ht⟩

theorem balance (h : p.Mirrors w L q) (ht : t.Mirrors w L u) :
    Option.Rel (Refusal.Mirrors L) (p.balance t) (q.balance u) := by
  unfold Progress.balance
  rw [← h.cursor_eq]
  split
  · exact .some (.unbalanced ht.text ht.start)
  · split
    · exact .some (.incomplete ht.text ht.start)
    · exact .none

/-- The checks at the end have mirrored results in mirrored states. -/
theorem finish (h : p.Mirrors w L q) : p.finish.Mirrors (Node.Mirrors w L) L q.finish := by
  have hbalance := fun t u => h.balance (t := t) (u := u)
  obtain ⟨cursor, pending?, last?⟩ := p
  obtain ⟨cursor', pending'?, last'?⟩ := q
  obtain ⟨-, hpending, hlast⟩ := h
  unfold Progress.finish
  cases hlast with
  | none => exact ⟨.nil, .none⟩
  | some ht =>
      cases hpending with
      | none => exact ⟨.nil, hbalance _ _ ht⟩
      | some hn =>
          dsimp only
          rw [← hn.isComplete_eq]
          split
          · exact ⟨.cons hn .nil, hbalance _ _ ht⟩
          · exact ⟨.nil, .some (.incomplete ht.text ht.start)⟩

/-- Mirrored tokens are read from mirrored states with mirrored results, at any end. -/
theorem run (h : p.Mirrors w L q) (hts : List.Forall₂ (Token.Mirrors w L) ts us)
    {broken? broken'? : Option Refusal}
    (hbroken : Option.Rel (Refusal.Mirrors L) broken? broken'?) :
    (p.run w broken? ts).Mirrors (Node.Mirrors w L) L (q.run w broken'? us) := by
  induction hts generalizing p q with
  | nil =>
      cases hbroken with
      | none => exact h.finish
      | some hr => exact ⟨.nil, .some hr⟩
  | @cons t u ts us ht _ ih =>
      have hended := forall₂_toList (h.ended? ht)
      have hacc := h.accept ht
      cases hp : p.accept w t with
      | error r =>
          rw [hp] at hacc
          obtain ⟨s, hq, hr⟩ := hacc.exists_error
          rw [run_cons_of_error hp, run_cons_of_error hq]
          exact ⟨hended, .some hr⟩
      | ok p' =>
          rw [hp] at hacc
          obtain ⟨q', hq, hp'⟩ := hacc.exists_ok
          rw [run_cons_of_ok hp, run_cons_of_ok hq]
          exact (ih hp').prepend hended

/-- What the one reads without a refusal, so does the other. -/
theorem reads (h : p.Mirrors w L q) (hts : List.Forall₂ (Token.Mirrors w L) ts us)
    (hread : p.Reads w ts ns p') :
    ∃ ms q', q.Reads w us ms q' ∧ List.Forall₂ (Node.Mirrors w L) ns ms ∧ p'.Mirrors w L q' := by
  induction hread generalizing q us with
  | nil p =>
      cases hts
      exact ⟨[], q, .nil q, .nil, h⟩
  | @cons p r p' t ts ns hacc _ ih =>
      cases hts with
      | @cons _ u _ us ht hts =>
          have hstep := h.accept ht
          rw [hacc] at hstep
          obtain ⟨r', hr', hrr'⟩ := hstep.exists_ok
          obtain ⟨ms, q', hread', hns, hq'⟩ := ih hrr' hts
          exact ⟨_, q', .cons hr' hread', List.rel_append (forall₂_toList (h.ended? ht)) hns, hq'⟩

end Progress.Mirrors

/-! ### Filters -/

/-- Mirrored nodes write the same predicate. -/
theorem Predicate.ofNodes_eq_of_mirrors {w : Whitelist} {L : Likeness} {ns ms : List Node}
    (h : List.Forall₂ (Node.Mirrors w L) ns ms) : ofNodes ns = ofNodes ms := by
  have hpieces : ns.flatMap Node.pieces = ms.flatMap Node.pieces := by
    induction h with
    | nil => rfl
    | cons hn _ ih => rw [List.flatMap_cons, List.flatMap_cons, hn.pieces_eq, ih]
  rw [ofNodes, ofNodes, hpieces]

/-- Filters with mirrored tokens have mirrored results if both are blank or neither is. -/
theorem Whitelist.parse_mirrored_of_scan {w : Whitelist} {L : Likeness} {s t : String}
    (hblank : Text.isBlankText s = Text.isBlankText t)
    (htokens : (w.scan s).Mirrors (Token.Mirrors w L) L (w.scan t)) :
    Mirrored L (· = ·) (w.parse (some s)) (w.parse (some t)) := by
  have hnodes := (Progress.Mirrors.of_empty (w := w) L .initial).run htokens.items htokens.refusal
  unfold parse
  refine .ite (by rw [hblank]) (.ok rfl) (hnodes.toExcept_map fun ns ms hns => ?_)
  rw [Predicate.ofNodes_eq_of_mirrors hns]

end FilterQuery
