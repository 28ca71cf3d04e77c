/-
**Traversals hand out the nodes of the reading.**

A traversal reads on demand, keeps what it has read and not handed out, and stops at the first
refusal.  Taken to its end it hands out the nodes of the whole reading in order, then the refusal
if there is one, and nothing more however often it is asked.

Main definitions:

* `Yield.answers` — the items of a yield in order, and its refusal;
* `Traversal.remaining` — what a traversal has still to hand out.

Main results:

* `Traversal.next_eq` — one step hands out the first of what remains;
* `Traversal.take_eq_map` — so do all steps in a row;
* `Traversal.take_ofFilter` — **the answers of the traversal of a filter**.
-/

import FilterQuery.Traversal

set_option relaxedAutoImplicit false
set_option autoImplicit false

namespace FilterQuery

/-! ### Yields as answers -/

namespace Yield

variable {α : Type}

/-- The items in order, and the refusal that ends them. -/
def answers (y : Yield α) : List (Except Refusal α) :=
  y.items.map .ok ++ y.refusal?.toList.map .error

theorem answers_prepend (items : List α) (y : Yield α) :
    (y.prepend items).answers = items.map .ok ++ y.answers := by
  simp [answers]

theorem answers_eq_nil_iff {y : Yield α} : y.answers = [] ↔ y.items = [] ∧ y.refusal? = none := by
  cases h : y.refusal? <;> simp [answers, h]

end Yield

namespace Traversal

variable {w : Whitelist} {t u : Traversal}

/-! ### What remains -/

/-- What the traversal has still to hand out. -/
def remaining (w : Whitelist) (t : Traversal) : List (Except Refusal Node) :=
  t.ready.answers ++ if t.isOver then [] else (t.progress.run w t.broken? t.rest).answers

/-- Only a traversal that is over holds a refusal. -/
def IsSound (t : Traversal) : Prop :=
  t.isOver = false → t.ready.refusal? = none

theorem pop?_eq_none_iff : t.pop? = none ↔ t.ready.answers = [] := by
  rw [Yield.answers_eq_nil_iff, pop?]
  cases t.ready.items with
  | nil => cases t.ready.refusal? <;> simp
  | cons n ns => simp

/-- What is handed out without reading on comes first of what remains. -/
theorem remaining_of_pop? {item : Except Refusal Node} (ht : t.IsSound)
    (h : t.pop? = some (item, u)) : u.IsSound ∧ t.remaining w = item :: u.remaining w := by
  unfold pop? at h
  cases hitems : t.ready.items with
  | cons n ns =>
      simp only [hitems] at h
      obtain ⟨rfl, rfl⟩ := Prod.mk.inj (Option.some.inj h)
      exact ⟨ht, by simp [remaining, Yield.answers, hitems]⟩
  | nil =>
      cases hrefusal : t.ready.refusal? with
      | none => simp [hitems, hrefusal] at h
      | some r =>
          simp only [hitems, hrefusal] at h
          obtain ⟨rfl, rfl⟩ := Prod.mk.inj (Option.some.inj h)
          cases hover : t.isOver with
          | false => simp [ht hover] at hrefusal
          | true =>
              refine ⟨fun _ => rfl, ?_⟩
              simp [remaining, Yield.answers, Yield.empty, hitems, hrefusal, hover]

/-- Reading on changes nothing of what remains.  Afterwards something can be handed out, or the
traversal is over. -/
theorem remaining_advance (hover : t.isOver = false) (p : Progress) (ts : List Token) :
    (t.advance w p ts).IsSound ∧
      (t.advance w p ts).remaining w = (p.run w t.broken? ts).answers ∧
      ((t.advance w p ts).ready.answers = [] → (t.advance w p ts).isOver = true) := by
  induction ts generalizing p with
  | nil =>
      unfold advance Progress.run
      cases t.broken? with
      | some r => simp [IsSound, ending, remaining]
      | none => simp [IsSound, ending, remaining]
  | cons x xs ih =>
      unfold advance Progress.run
      cases hacc : p.accept w x with
      | error r => simp [IsSound, ending, remaining]
      | ok q =>
          cases hended : p.ended? x with
          | none => simpa [Yield.answers_prepend] using ih q
          | some n => simp [IsSound, remaining, hover, Yield.answers]

theorem next_of_settled (ht : t.IsSound) (hdone : t.ready.answers = [] → t.isOver = true) :
    (t.next w).2.IsSound ∧ (t.next w).1 = (t.remaining w).head? ∧
      (t.next w).2.remaining w = (t.remaining w).tail := by
  cases hpop : t.pop? with
  | none =>
      have hempty := pop?_eq_none_iff.1 hpop
      have hnext : t.next w = (none, t) := by simp [next, hpop, hdone hempty]
      have hnil : t.remaining w = [] := by simp [remaining, hempty, hdone hempty]
      rw [hnext]
      exact ⟨ht, by rw [hnil]; rfl, by simp [hnil]⟩
  | some r =>
      obtain ⟨item, after⟩ := r
      have hnext : t.next w = (some item, after) := by simp [next, hpop]
      obtain ⟨hafter, hcons⟩ := remaining_of_pop? (w := w) ht hpop
      rw [hnext, hcons]
      exact ⟨hafter, rfl, rfl⟩

/-- One step hands out the first of what remains. -/
theorem next_eq (ht : t.IsSound) :
    (t.next w).2.IsSound ∧ (t.next w).1 = (t.remaining w).head? ∧
      (t.next w).2.remaining w = (t.remaining w).tail := by
  by_cases hidle : t.ready.answers = [] ∧ t.isOver = false
  · obtain ⟨hempty, hover⟩ := hidle
    obtain ⟨hsound, hremaining, hdone⟩ := remaining_advance (w := w) hover t.progress t.rest
    have hpop := pop?_eq_none_iff.2 hempty
    have hsame : t.remaining w = (t.advance w t.progress t.rest).remaining w := by
      rw [hremaining, remaining, hempty, hover]
      rfl
    have hnext : t.next w = (t.advance w t.progress t.rest).next w := by
      cases hread : (t.advance w t.progress t.rest).pop? with
      | none => simp [next, hpop, hover, hread, hdone (pop?_eq_none_iff.1 hread)]
      | some r => simp [next, hpop, hover, hread]
    rw [hnext, hsame]
    exact next_of_settled hsound hdone
  · exact next_of_settled ht (by simpa using hidle)

/-- Steps in a row hand out what remains, and then nothing. -/
theorem take_eq_map (ht : t.IsSound) (n : Nat) :
    t.take w n = (List.range n).map fun i => (t.remaining w)[i]? := by
  induction n generalizing t with
  | zero => rfl
  | succ n ih =>
      obtain ⟨hsound, hfirst, hrest⟩ := next_eq (w := w) ht
      rw [take, ih hsound, hfirst, hrest, List.range_succ_eq_map, List.map_cons, List.map_map]
      simp [List.head?_eq_getElem?, Function.comp_def]

/-- **The answers of the traversal of a filter** are its nodes in order, its refusal if there is
one, and none ever after. -/
theorem take_ofFilter (w : Whitelist) (filter : String) (n : Nat) :
    (ofFilter w filter).take w n = (List.range n).map fun i => (w.nodes filter).answers[i]? := by
  rw [take_eq_map (fun _ => rfl) n]
  rfl

end Traversal

end FilterQuery
