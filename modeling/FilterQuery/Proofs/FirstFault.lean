/-
**The first fault decides.**

A step that may end in a fault is followed by the next one only if it comes to a result.  Entries
and clauses are gone through in order in this way, and the first one with a fault ends the work.  So
a list comes to a result if each of its members does, in the place that it has, and it comes to a
fault if one of its members does behind others that come to results.

Main results:

* `bind_eq_ok_iff`, `bind_eq_error_iff` — one step after another;
* `mapM_eq_ok_iff`, `mapM_eq_error_iff` — going through a list member by member;
* `mapM_append_eq` — a list is gone through part by part;
* `foldlM_eq_error_iff` — going through a list with what the members before have come to.
-/

import Mathlib.Data.List.Forall2

set_option relaxedAutoImplicit false
set_option autoImplicit false

namespace FilterQuery

variable {ε α β γ : Type}

/-! ### Results that may be faults -/

theorem map_eq_ok_iff {f : α → β} {x : Except ε α} {b : β} :
    x.map f = .ok b ↔ ∃ a, x = .ok a ∧ f a = b := by
  cases x <;> simp [Except.map]

theorem exists_map_eq_ok_iff {f : α → β} {x : Except ε α} :
    (∃ b, x.map f = .ok b) ↔ ∃ a, x = .ok a := by
  cases x <;> simp [Except.map]

theorem bind_eq_ok_iff {f : α → Except ε β} {x : Except ε α} {b : β} :
    x.bind f = .ok b ↔ ∃ a, x = .ok a ∧ f a = .ok b := by
  cases x <;> simp [Except.bind]

theorem map_eq_error_iff {f : α → β} {x : Except ε α} {e : ε} :
    x.map f = .error e ↔ x = .error e := by
  cases x <;> simp [Except.map]

theorem bind_eq_error_iff {f : α → Except ε β} {x : Except ε α} {e : ε} :
    x.bind f = .error e ↔ x = .error e ∨ ∃ a, x = .ok a ∧ f a = .error e := by
  cases x <;> simp [Except.bind]

theorem map_map_eq (x : Except ε α) (f : α → β) (g : β → γ) :
    (x.map f).map g = x.map fun a => g (f a) := by
  cases x <;> rfl

/-! ### Member by member -/

theorem mapM_cons_eq (f : α → Except ε β) (x : α) (l : List α) :
    (x :: l).mapM f = (f x).bind fun b => (l.mapM f).map (b :: ·) := by
  rw [List.mapM_cons]
  cases f x with
  | error e => rfl
  | ok b => cases l.mapM f <;> rfl

/-- A list comes to a result if its members do. -/
theorem mapM_eq_ok_iff {f : α → Except ε β} {l : List α} {bs : List β} :
    l.mapM f = .ok bs ↔ List.Forall₂ (fun x b => f x = .ok b) l bs := by
  induction l generalizing bs with
  | nil =>
      rw [List.forall₂_nil_left_iff, List.mapM_nil]
      exact ⟨fun h => (Except.ok.inj h).symm, fun h => congrArg Except.ok h.symm⟩
  | cons x l ih =>
      rw [mapM_cons_eq, bind_eq_ok_iff, List.forall₂_cons_left_iff]
      refine exists_congr fun b => ?_
      rw [map_eq_ok_iff]
      constructor
      · rintro ⟨hb, cs, hcs, rfl⟩
        exact ⟨cs, hb, ih.1 hcs, rfl⟩
      · rintro ⟨cs, hb, hcs, rfl⟩
        exact ⟨hb, cs, ih.2 hcs, rfl⟩

/-- A list comes to a result if every member does. -/
theorem exists_mapM_eq_ok_iff {f : α → Except ε β} {l : List α} :
    (∃ bs, l.mapM f = .ok bs) ↔ ∀ x ∈ l, ∃ b, f x = .ok b := by
  simp only [mapM_eq_ok_iff]
  induction l with
  | nil => simp
  | cons x l ih =>
      simp only [List.forall₂_cons_left_iff, List.forall_mem_cons, ← ih]
      constructor
      · rintro ⟨-, b, bs, hb, hbs, rfl⟩
        exact ⟨⟨b, hb⟩, bs, hbs⟩
      · rintro ⟨⟨b, hb⟩, bs, hbs⟩
        exact ⟨_, b, bs, hb, hbs, rfl⟩

/-- The results of a list are those of its members. -/
theorem mem_iff_of_mapM_eq_ok {f : α → Except ε β} {l : List α} {bs : List β}
    (h : l.mapM f = .ok bs) (b : β) : b ∈ bs ↔ ∃ x ∈ l, f x = .ok b := by
  rw [mapM_eq_ok_iff] at h
  induction h with
  | nil => simp
  | @cons x c l bs hx _ ih => simp [ih, hx, eq_comm]

/-- A list comes to the fault of a member behind others that come to results. -/
theorem mapM_eq_error_iff {f : α → Except ε β} {l : List α} {e : ε} :
    l.mapM f = .error e ↔
      ∃ before x after, l = before ++ x :: after ∧ (∀ y ∈ before, ∃ b, f y = .ok b) ∧
        f x = .error e := by
  induction l with
  | nil =>
      constructor
      · intro h
        contradiction
      · rintro ⟨before, x, after, hl, -⟩
        simp at hl
  | cons y l ih =>
      rw [mapM_cons_eq, bind_eq_error_iff]
      simp only [map_eq_error_iff, ih]
      constructor
      · rintro (hy | ⟨b, hb, before, x, after, rfl, hbefore, hx⟩)
        · exact ⟨[], y, l, rfl, by simp, hy⟩
        · exact ⟨y :: before, x, after, rfl, List.forall_mem_cons.2 ⟨⟨b, hb⟩, hbefore⟩, hx⟩
      · rintro ⟨before, x, after, hl, hbefore, hx⟩
        cases before with
        | nil =>
            obtain ⟨rfl, -⟩ := List.cons.inj hl
            exact .inl hx
        | cons z before =>
            obtain ⟨rfl, rfl⟩ := List.cons.inj hl
            obtain ⟨⟨b, hb⟩, hrest⟩ := List.forall_mem_cons.1 hbefore
            exact .inr ⟨b, hb, before, x, after, rfl, hrest, hx⟩

/-- A list is gone through part by part. -/
theorem mapM_append_eq (f : α → Except ε β) (l m : List α) :
    (l ++ m).mapM f = (l.mapM f).bind fun bs => (m.mapM f).map (bs ++ ·) := by
  rw [List.mapM_append]
  cases l.mapM f with
  | error e => rfl
  | ok bs => cases m.mapM f <;> rfl

/-! ### With what has come before -/

/-- A list comes to the fault that a member has after what the members before have come to. -/
theorem foldlM_eq_error_iff {f : β → α → Except ε β} {l : List α} {b : β} {e : ε} :
    l.foldlM f b = .error e ↔
      ∃ before x after c, l = before ++ x :: after ∧ before.foldlM f b = .ok c ∧
        f c x = .error e := by
  induction l generalizing b with
  | nil =>
      constructor
      · intro h
        contradiction
      · rintro ⟨before, x, after, -, hl, -⟩
        simp at hl
  | cons y l ih =>
      have hcons : ∀ m : List α, (y :: m).foldlM f b = (f b y).bind fun c => m.foldlM f c :=
        fun _ => List.foldlM_cons
      rw [hcons, bind_eq_error_iff]
      simp only [ih]
      constructor
      · rintro (hy | ⟨c, hc, before, x, after, d, rfl, hd, hx⟩)
        · exact ⟨[], y, l, b, rfl, rfl, hy⟩
        · exact ⟨y :: before, x, after, d, rfl,
            List.foldlM_cons.trans (bind_eq_ok_iff.2 ⟨c, hc, hd⟩), hx⟩
      · rintro ⟨before, x, after, d, hl, hd, hx⟩
        cases before with
        | nil =>
            obtain ⟨rfl, -⟩ := List.cons.inj hl
            obtain rfl := Except.ok.inj hd
            exact .inl hx
        | cons z before =>
            obtain ⟨rfl, rfl⟩ := List.cons.inj hl
            obtain ⟨c, hc, hrest⟩ := bind_eq_ok_iff.1 (List.foldlM_cons.symm.trans hd)
            exact .inr ⟨c, hc, before, x, after, d, rfl, hrest, hx⟩

end FilterQuery
