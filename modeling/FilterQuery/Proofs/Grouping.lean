/-
**The nodes of a filter are consecutive groups of its tokens.**

The reading starts nodes, lets a pending node take tokens, hands it out when a token ends it, and
drops it at some refusals.  Seen from outside it does nothing but cut the tokens into groups: the
nodes that are handed out are what fresh nodes become by taking the tokens of one group each, and
the groups follow each other from the first token on.  Where there is no refusal they are all the
tokens, so none is lost, read twice or moved.

Main definitions:

* `Node.ConsistsOf` — the node that a group of tokens makes by itself;
* `Progress.Holds` — the tokens of the pending node.

Main results:

* `Progress.Holds.accept` — an accepted token joins the pending group or opens the next one;
* `Progress.Holds.exists_groups` — what a run hands out are groups of its tokens;
* `Whitelist.take_eq_groups` — **what a traversal hands out are groups of the tokens of the filter**.
-/

import FilterQuery.Proofs.Completeness
import FilterQuery.Proofs.Traversing
import Mathlib.Data.List.Forall2

set_option relaxedAutoImplicit false
set_option autoImplicit false

namespace FilterQuery

/-! ### Nodes and their tokens -/

/-- The tokens make the node: a blank comparison or a blank call takes them one after the other, or
the only one of them is a logical operator or a parenthesis. -/
inductive Node.ConsistsOf (w : Whitelist) : Node → List Token → Prop where
  | comparison {n : Node} {ts : List Token} : ts ≠ [] →
      (Node.comparison .blank).TakesAll w ts n → Node.ConsistsOf w n ts
  | call {n : Node} {ts : List Token} : ts ≠ [] →
      (Node.call .blank).TakesAll w ts n → Node.ConsistsOf w n ts
  | logical {t : Token} {k : Kind} : t.IsA k → k ∈ KindSet.logical →
      Node.ConsistsOf w (.logical t.kinds) [t]
  | openParen {t : Token} : t.IsA .openParen → Node.ConsistsOf w (.openParen t) [t]
  | closeParen {t : Token} : t.IsA .closeParen → Node.ConsistsOf w (.closeParen t) [t]

/-- The pending node consists of the tokens, and there are none without a pending node. -/
inductive Progress.Holds (w : Whitelist) : Progress → List Token → Prop where
  | nothing (c : Cursor) : Progress.Holds w ⟨c, none, none⟩ []
  | node {c : Cursor} {n : Node} {last : Token} {ts : List Token} : n.ConsistsOf w ts →
      Progress.Holds w ⟨c, some n, some last⟩ ts

section Groups

variable {w : Whitelist} {n m l : Node} {p q : Progress} {t : Token} {k : Kind}
  {ts us : List Token}

theorem Node.ConsistsOf.ne_nil (h : n.ConsistsOf w ts) : ts ≠ [] := by
  cases h with
  | comparison hts _ => exact hts
  | call hts _ => exact hts
  | _ => exact List.cons_ne_nil _ _

/-- A node that has taken tokens takes one more. -/
theorem Node.TakesAll.snoc (h : n.TakesAll w ts m) (hcan : m.canAdd t = true)
    (hadd : m.add w t = .ok l) : n.TakesAll w (ts ++ [t]) l := by
  induction h with
  | nil n => exact .cons hcan hadd (.nil l)
  | cons hcan' hadd' _ ih => exact .cons hcan' hadd' (ih hcan hadd)

/-- A token that a node takes joins its group. -/
theorem Node.ConsistsOf.add (h : n.ConsistsOf w ts) (hcan : n.canAdd t = true)
    (hadd : n.add w t = .ok m) : m.ConsistsOf w (ts ++ [t]) := by
  cases h with
  | comparison _ htakes => exact .comparison (by simp) (htakes.snoc hcan hadd)
  | call _ htakes => exact .call (by simp) (htakes.snoc hcan hadd)
  | _ => simp [Node.canAdd] at hcan

/-- A token that starts a node is the first of its group. -/
theorem Cursor.Starts.consistsOf {c d : Cursor} (ht : t.IsA k) (h : c.Starts w t k d n) :
    n.ConsistsOf w [t] := by
  have hk : t.kinds = .single k := ht
  cases h with
  | comparison _ _ hn => exact .comparison (by simp) (hn.takesAll (.nil _))
  | call _ _ _ hn => exact .call (by simp) (hn.takesAll (.nil _))
  | openParen _ => exact .openParen ht
  | closeParen _ _ _ => exact .closeParen ht
  | @connective g _ _ =>
      rw [← hk]
      exact .logical ht (by cases g <;> decide)
  | negation _ _ =>
      rw [← hk]
      exact .logical ht (by decide)

/-! ### The groups of a reading -/

/-- An accepted token joins the pending group, or it ends that group and opens the next one. -/
theorem Progress.Holds.accept (h : p.Holds w us) (ht : t.IsA k) (hacc : p.Accepts w t k q) :
    (p.ended? t = none ∧ q.Holds w (us ++ [t])) ∨ (p.ended? t = p.pending? ∧ q.Holds w [t]) := by
  cases hacc with
  | taken hpend hcan hadd =>
      left
      cases h with
      | nothing c => simp at hpend
      | node hn =>
          obtain rfl := Option.some.inj hpend
          exact ⟨ended?_of_canAdd rfl hcan, .node (hn.add hcan hadd)⟩
  | started hnone hs =>
      right
      exact ⟨ended?_of_not_canAdd hnone, .node (hs.consistsOf ht)⟩

/-- The node that a token ends is the pending group. -/
theorem Progress.Holds.exists_groups_ended? (h : p.Holds w us) (t : Token) :
    ∃ groups : List (List Token),
      List.Forall₂ (fun n g => n.isComplete = true ∧ n.ConsistsOf w g) (p.ended? t).toList groups ∧
        groups.flatten <+: us ∧ (p.ended? t = p.pending? → groups.flatten = us) := by
  cases h with
  | nothing c => exact ⟨[], .nil, List.nil_prefix, fun _ => rfl⟩
  | @node c n last us hn =>
      cases hcan : n.canAdd t with
      | true =>
          rw [ended?_of_canAdd rfl hcan]
          refine ⟨[], .nil, List.nil_prefix, fun hpending => ?_⟩
          contradiction
      | false =>
          rw [ended?_of_not_canAdd (by simpa using hcan)]
          refine ⟨[us], .cons ⟨Node.isComplete_of_not_canAdd hcan, hn⟩ .nil, ?_, ?_⟩ <;> simp

/-- What the checks at the end hand out is the pending group, unless they refuse. -/
theorem Progress.Holds.exists_groups_finish (h : p.Holds w us) :
    ∃ groups : List (List Token),
      List.Forall₂ (fun n g => n.isComplete = true ∧ n.ConsistsOf w g) p.finish.items groups ∧
        groups.flatten <+: us ∧ (p.finish.refusal? = none → groups.flatten = us) := by
  cases h with
  | nothing c => exact ⟨[], .nil, List.nil_prefix, fun _ => rfl⟩
  | @node c n last us hn =>
      cases hdone : n.isComplete with
      | true =>
          have hitems : (⟨c, some n, some last⟩ : Progress).finish.items = [n] := by
            simp [finish, hdone]
          rw [hitems]
          exact ⟨[us], .cons ⟨hdone, hn⟩ .nil, by simp, fun _ => by simp⟩
      | false =>
          have hfinish : (⟨c, some n, some last⟩ : Progress).finish =
              .ofRefusal last.incomplete := by
            simp [finish, hdone]
          rw [hfinish]
          refine ⟨[], .nil, List.nil_prefix, fun hclosed => ?_⟩
          contradiction

/-- What a run hands out are complete nodes, each of which consists of a group of the tokens.  The
groups follow each other from the first token on, and they are all tokens if none is refused. -/
theorem Progress.Holds.exists_groups (h : p.Holds w us) (hts : ∀ t ∈ ts, ∃ k, t.IsA k)
    (broken? : Option Refusal) :
    ∃ groups : List (List Token),
      List.Forall₂ (fun n g => n.isComplete = true ∧ n.ConsistsOf w g)
        (p.run w broken? ts).items groups ∧
      groups.flatten <+: us ++ ts ∧
      ((p.run w broken? ts).refusal? = none → groups.flatten = us ++ ts) := by
  induction ts generalizing p us with
  | nil =>
      rw [List.append_nil]
      cases broken? with
      | none => exact h.exists_groups_finish
      | some r =>
          -- The pending group is dropped.
          refine ⟨[], .nil, List.nil_prefix, fun hclosed => ?_⟩
          contradiction
  | cons t ts ih =>
      obtain ⟨⟨k, ht⟩, hts⟩ := List.forall_mem_cons.1 hts
      obtain ⟨front, hfront, hprefix, hall⟩ := h.exists_groups_ended? t
      cases hacc : p.accept w t with
      | error r =>
          rw [run_cons_of_error hacc]
          refine ⟨front, hfront, hprefix.trans (List.prefix_append _ _), fun hclosed => ?_⟩
          contradiction
      | ok q =>
          rw [run_cons_of_ok hacc]
          rcases h.accept ht ((accept_eq_ok_iff ht).1 hacc) with ⟨hnone, hq⟩ | ⟨hended, hq⟩
          · obtain ⟨groups, hgroups, hback, hclosed⟩ := ih hq hts
            rw [List.append_assoc, List.singleton_append] at hback hclosed
            rw [hnone]
            exact ⟨groups, hgroups, hback, hclosed⟩
          · obtain ⟨groups, hgroups, hback, hclosed⟩ := ih hq hts
            have hflat : (front ++ groups).flatten = us ++ groups.flatten := by
              rw [List.flatten_append, hall hended]
            refine ⟨front ++ groups, List.rel_append hfront hgroups, ?_, ?_⟩
            · rw [hflat]
              exact (List.prefix_append_right_inj us).2 hback
            · intro hnone
              rw [hflat, hclosed hnone]
              rfl

end Groups

/-! ### Traversals -/

/-- **What a traversal hands out are groups of the tokens of the filter.**  Asked any number of times
it answers with nodes, then with a refusal if there is one, and with nothing ever after.  Each node
is complete and consists of a group of tokens that is not empty.  The groups follow each other from
the first token of the filter on, and they are all its tokens if there is no refusal. -/
theorem Whitelist.take_eq_groups (w : Whitelist) (filter : String) :
    ∃ (ns : List Node) (r? : Option Refusal) (groups : List (List Token)),
      (∀ m, (Traversal.ofFilter w filter).take w m =
        (List.range m).map fun i => (ns.map .ok ++ r?.toList.map .error)[i]?) ∧
      List.Forall₂ (fun n g => g ≠ [] ∧ n.isComplete = true ∧ n.ConsistsOf w g) ns groups ∧
      groups.flatten <+: (w.scan filter).items ∧
      (r? = none → groups.flatten = (w.scan filter).items) := by
  have hstart : Progress.initial.Holds w [] := .nothing _
  have hkinds := exists_isA_of_mem_scanFrom w 0 filter.toList
  obtain ⟨groups, hgroups, hprefix, hall⟩ := hstart.exists_groups hkinds (w.scan filter).refusal?
  refine ⟨(w.nodes filter).items, (w.nodes filter).refusal?, groups, ?_, ?_, hprefix, hall⟩
  · intro m
    exact Traversal.take_ofFilter w filter m
  · exact hgroups.imp fun n g hn => ⟨hn.2.ne_nil, hn⟩

end FilterQuery
