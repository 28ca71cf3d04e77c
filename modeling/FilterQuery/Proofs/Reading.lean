/-
**The reading of tokens as a relation.**

The reading is a fold of `Progress.accept` that hands out nodes on the way and may end in a
refusal.  Here its successful steps become relations with one constructor for each thing that a
step can do, so that what a step keeps is proved by cases, and what a whole reading keeps by
induction.

Main definitions:

* `Cursor.Starts` — a token of one kind starts a node;
* `Progress.Reads` — tokens are read without a refusal, and nodes are handed out.

Main results:

* `Whitelist.exists_isA_of_mem_scan` — every token of a text has exactly one kind;
* `Cursor.start_eq_ok_iff` — a cursor lets a token start a node exactly as `Cursor.Starts` says;
* `Progress.toExcept_run_eq_ok_iff` — a reading is not refused exactly if all tokens are read and
  the checks at the end pass;
* `Whitelist.parse_eq_ok_some_iff` — a predicate is the output of the nodes of such a reading.
-/

import FilterQuery.Filter
import FilterQuery.Proofs.NodeSteps
import Mathlib.Data.List.TakeWhile

set_option relaxedAutoImplicit false
set_option autoImplicit false

namespace FilterQuery

/-! ### The tokens of a text -/

namespace Whitelist

variable {w : Whitelist}

theorem exists_isA_of_mem_scanFrom (w : Whitelist) (start : Nat) (cs : List Char) :
    ∀ t ∈ (w.scanFrom start cs).items, ∃ k, t.IsA k := by
  fun_induction scanFrom w start cs with
  | case1 start cs _ => simp [Yield.empty]
  | case2 start cs c rest _ _ _ => simp [Yield.ofRefusal]
  | case3 start cs c rest _ _ k text tail _ ih =>
      intro t ht
      rw [Yield.items_prepend, List.mem_append, List.mem_singleton] at ht
      rcases ht with rfl | ht
      · exact ⟨k, rfl⟩
      · exact ih t ht

/-- Every token of a text has exactly one kind. -/
theorem exists_isA_of_mem_scan {text : String} {ts : List Token}
    (h : (w.scan text).toExcept = .ok ts) : ∀ t ∈ ts, ∃ k, t.IsA k := by
  obtain ⟨-, rfl⟩ := Yield.toExcept_eq_ok_iff.1 h
  exact exists_isA_of_mem_scanFrom w 0 text.toList

/-- Only a text of blanks has no token and no refusal. -/
theorem toExcept_scan_eq_ok_nil_iff {text : String} :
    (w.scan text).toExcept = .ok [] ↔ Text.isBlankText text = true := by
  have hblank : Text.isBlankText text = true ↔ Text.skipBlanks text.toList = [] := by
    simp [Text.isBlankText, Text.skipBlanks, List.dropWhile_eq_nil_iff]
  rw [hblank, Yield.toExcept_eq_ok_iff, scan]
  constructor
  · rintro ⟨href, hitems⟩
    cases hs : Text.skipBlanks text.toList with
    | nil => rfl
    | cons c rest =>
        cases ht : w.takeToken? c rest with
        | none =>
            rw [scanFrom_of_open w 0 hs ht] at href
            simp [Yield.ofRefusal] at href
        | some r =>
            obtain ⟨k, body, tail⟩ := r
            rw [scanFrom_of_token w 0 hs ht] at hitems
            simp at hitems
  · intro hs
    rw [scanFrom_of_blank w 0 hs]
    exact ⟨rfl, rfl⟩

theorem ne_nil_of_not_isBlankText {w : Whitelist} {text : String} {ts : List Token}
    (hblank : Text.isBlankText text = false) (hscan : (w.scan text).toExcept = .ok ts) :
    ts ≠ [] := by
  rintro rfl
  simp [toExcept_scan_eq_ok_nil_iff.1 hscan] at hblank

end Whitelist

/-! ### Starting a node -/

/-- The ways in which a token of one kind starts a node, with the cursor after it. -/
inductive Cursor.Starts (w : Whitelist) (c : Cursor) (t : Token) : Kind → Cursor → Node → Prop where
  | comparison {n : Comparison} : c.afterNot = false → c.canOpen = true →
      Comparison.blank.Takes w t n → Cursor.Starts w c t .field c.enterOperand (.comparison n)
  | call {k : Kind} {n : Call} : c.afterNot = false → c.canOpen = true →
      k ∈ KindSet.stringFunction → Call.blank.Takes w t n →
      Cursor.Starts w c t k c.enterOperand (.call n)
  | openParen : c.canOpen = true →
      Cursor.Starts w c t .openParen
        { c with depth := c.depth + 1, canJoin := false, afterNot := false } (.openParen t)
  | closeParen : c.afterNot = false → c.canOpen = false → c.depth ≠ 0 →
      Cursor.Starts w c t .closeParen { c with depth := c.depth - 1, canJoin := true }
        (.closeParen t)
  | connective {g : Connective} : c.afterNot = false → c.canJoin = true →
      Cursor.Starts w c t g.kind { c with canJoin := false, canOpen := true }
        (.logical (.single g.kind))
  | negation : c.afterNot = false → c.canOpen = true →
      Cursor.Starts w c t .negation { c with afterNot := true, canJoin := false }
        (.logical (.single .negation))

namespace Cursor

variable {w : Whitelist} {c d : Cursor} {t : Token} {k : Kind} {n : Node}

theorem starts_of_start (ht : t.IsA k) (h : c.start w t = .ok (d, n)) : c.Starts w t k d n := by
  have hk : t.kinds = .single k := ht
  simp only [start, ht.kinds_eq_iff, ht.isOf_iff, ne_eq] at h
  split at h
  · simp at h
  next hnot =>
  have hn : k ≠ .openParen → c.afterNot = false := by
    intro hko
    by_contra hc
    exact hnot ⟨by simpa using hc, hko⟩
  split at h
  · next hf =>
      obtain ⟨rfl, hopen⟩ := hf
      obtain ⟨m, hm, heq⟩ := map_eq_ok_iff.1 h
      obtain ⟨rfl, rfl⟩ := Prod.mk.inj heq
      exact .comparison (hn (by decide)) hopen (Comparison.takes_of_add ht hm)
  split at h
  · next hf =>
      obtain ⟨hfn, hopen⟩ := hf
      obtain ⟨m, hm, heq⟩ := map_eq_ok_iff.1 h
      obtain ⟨rfl, rfl⟩ := Prod.mk.inj heq
      refine .call (hn ?_) hopen hfn (Call.takes_of_add ht hm)
      rintro rfl
      simp [KindSet.stringFunction] at hfn
  split at h
  · next hp =>
      obtain ⟨rfl, hopen⟩ := hp
      obtain ⟨rfl, rfl⟩ := Prod.mk.inj (Except.ok.inj h)
      exact .openParen hopen
  split at h
  · next hp =>
      obtain ⟨rfl, hopen⟩ := hp
      split at h
      · simp at h
      · next hd =>
          obtain ⟨rfl, rfl⟩ := Prod.mk.inj (Except.ok.inj h)
          exact .closeParen (hn (by decide)) (by simpa using hopen) hd
  split at h
  · next hp =>
      obtain ⟨hg, hjoin⟩ := hp
      obtain ⟨rfl, rfl⟩ := Prod.mk.inj (Except.ok.inj h)
      rw [hk]
      have hg' : k = .conjunction ∨ k = .disjunction := by
        simpa using KindSet.mem_ofList.1 hg
      rcases hg' with rfl | rfl
      · exact .connective (g := .conjunction) (hn (by decide)) hjoin
      · exact .connective (g := .disjunction) (hn (by decide)) hjoin
  split at h
  · next hp =>
      obtain ⟨rfl, hopen⟩ := hp
      obtain ⟨rfl, rfl⟩ := Prod.mk.inj (Except.ok.inj h)
      rw [hk]
      exact .negation (hn (by decide)) hopen
  · simp at h

theorem start_of_starts (ht : t.IsA k) (h : c.Starts w t k d n) : c.start w t = .ok (d, n) := by
  have hk : t.kinds = .single k := ht
  simp only [start, ht.kinds_eq_iff, ht.isOf_iff, ne_eq]
  cases h with
  | comparison hnot hopen hm => simp [hnot, hopen, Comparison.add_of_takes hm, Except.map]
  | call hnot hopen hfn hm =>
      have hne : k ≠ .field := by
        rintro rfl
        simp [KindSet.stringFunction] at hfn
      simp [hnot, hopen, hne, hfn, Call.add_of_takes hm, Except.map]
  | openParen hopen => simp [hopen, KindSet.stringFunction]
  | closeParen hnot hopen hd => simp [hnot, hopen, hd]
  | @connective g hnot hjoin =>
      cases g <;> simp [hnot, hjoin, hk, Connective.kind, KindSet.stringFunction]
  | negation hnot hopen => simp [hnot, hopen, hk, KindSet.stringFunction]

/-- A cursor lets a token start a node exactly as `Cursor.Starts` says. -/
theorem start_eq_ok_iff (ht : t.IsA k) : c.start w t = .ok (d, n) ↔ c.Starts w t k d n :=
  ⟨starts_of_start ht, start_of_starts ht⟩

end Cursor

/-! ### Accepting a token -/

/-- The ways in which a token of one kind is accepted: the pending node takes it, or it starts
another node. -/
inductive Progress.Accepts (w : Whitelist) (p : Progress) (t : Token) (k : Kind) :
    Progress → Prop where
  | taken {n m : Node} : p.pending? = some n → n.canAdd t = true → n.add w t = .ok m →
      Progress.Accepts w p t k ⟨p.cursor, some m, some t⟩
  | started {d : Cursor} {n : Node} : (∀ m ∈ p.pending?, m.canAdd t = false) →
      p.cursor.Starts w t k d n → Progress.Accepts w p t k ⟨d, some n, some t⟩

namespace Progress

variable {w : Whitelist} {p q : Progress} {t : Token} {k : Kind}

theorem taker?_eq_none_iff : p.taker? t = none ↔ ∀ m ∈ p.pending?, m.canAdd t = false := by
  simp [taker?, Option.filter_eq_none_iff]

/-- A state accepts a token exactly as `Progress.Accepts` says. -/
theorem accept_eq_ok_iff (ht : t.IsA k) : p.accept w t = .ok q ↔ p.Accepts w t k q := by
  constructor
  · intro h
    unfold accept at h
    split at h
    · next n hn =>
        obtain ⟨m, hm, rfl⟩ := map_eq_ok_iff.1 h
        obtain ⟨hpend, hcan⟩ := Option.filter_eq_some_iff.1 hn
        exact .taken hpend hcan hm
    · next hn =>
        obtain ⟨⟨d, n⟩, hs, rfl⟩ := map_eq_ok_iff.1 h
        exact .started (taker?_eq_none_iff.1 hn) (Cursor.starts_of_start ht hs)
  · intro h
    cases h with
    | @taken n m hpend hcan hm =>
        have hn : p.taker? t = some n := Option.filter_eq_some_iff.2 ⟨hpend, hcan⟩
        simp [accept, hn, hm, Except.map]
    | started hnone hs =>
        simp [accept, taker?_eq_none_iff.2 hnone, Cursor.start_of_starts ht hs, Except.map]

theorem ended?_of_canAdd {n : Node} (hpend : p.pending? = some n) (hcan : n.canAdd t = true) :
    p.ended? t = none := by
  simp [ended?, hpend, hcan]

theorem ended?_of_not_canAdd (h : ∀ m ∈ p.pending?, m.canAdd t = false) :
    p.ended? t = p.pending? := by
  cases hp : p.pending? with
  | none => simp [ended?, hp]
  | some n => simp [ended?, hp, h n (by simp [hp])]

end Progress

/-! ### Reading tokens -/

/-- The tokens are read without a refusal.  On the way nodes are handed out, and the reading is in
another state afterwards. -/
inductive Progress.Reads (w : Whitelist) :
    Progress → List Token → List Node → Progress → Prop where
  | nil (p : Progress) : Progress.Reads w p [] [] p
  | cons {p q r : Progress} {t : Token} {ts : List Token} {ns : List Node} :
      p.accept w t = .ok q → Progress.Reads w q ts ns r →
      Progress.Reads w p (t :: ts) ((p.ended? t).toList ++ ns) r

theorem Yield.toExcept_prepend_eq_ok_iff {α : Type} {y : Yield α} {front items : List α} :
    (y.prepend front).toExcept = .ok items ↔
      ∃ back, y.toExcept = .ok back ∧ items = front ++ back := by
  simp only [toExcept_eq_ok_iff, refusal?_prepend, items_prepend]
  constructor
  · rintro ⟨hr, rfl⟩
    exact ⟨y.items, ⟨hr, rfl⟩, rfl⟩
  · rintro ⟨back, ⟨hr, rfl⟩, rfl⟩
    exact ⟨hr, rfl⟩

namespace Progress

variable {w : Whitelist} {p q r : Progress} {t : Token} {ts us : List Token} {ns ms : List Node}

theorem Reads.single (h : p.accept w t = .ok q) : p.Reads w [t] (p.ended? t).toList q := by
  simpa using Reads.cons h (.nil q)

/-- Two readings in a row are one reading. -/
theorem Reads.append (h : p.Reads w ts ns q) (h' : q.Reads w us ms r) :
    p.Reads w (ts ++ us) (ns ++ ms) r := by
  induction h with
  | nil p => exact h'
  | cons hacc _ ih =>
      rw [List.cons_append, List.append_assoc]
      exact .cons hacc (ih h')

/-- A state after a token remembers the token. -/
theorem last?_of_accept (h : p.accept w t = .ok q) : q.last? = some t := by
  unfold accept at h
  split at h
  · obtain ⟨n, -, rfl⟩ := map_eq_ok_iff.1 h
    rfl
  · obtain ⟨s, -, rfl⟩ := map_eq_ok_iff.1 h
    rfl

/-- A state after tokens remembers the last one. -/
theorem Reads.last?_eq (h : p.Reads w ts ns q) : q.last? = (ts.getLast?).or p.last? := by
  induction h with
  | nil p => rfl
  | @cons p q r t ts ns hacc _ ih =>
      rw [ih, last?_of_accept hacc, List.getLast?_cons]
      cases ts.getLast? <;> rfl

theorem Reads.exists_last? (h : p.Reads w ts ns q) (hts : ts ≠ []) :
    ∃ last, q.last? = some last := by
  rw [h.last?_eq, List.getLast?_eq_some_getLast hts]
  exact ⟨_, rfl⟩

/-- A reading is not refused exactly if all tokens are read and the checks at the end pass. -/
theorem toExcept_run_eq_ok_iff {broken? : Option Refusal} :
    (p.run w broken? ts).toExcept = .ok ns ↔
      broken? = none ∧ ∃ front q back, p.Reads w ts front q ∧ q.finish.toExcept = .ok back ∧
        ns = front ++ back := by
  induction ts generalizing p ns with
  | nil =>
      cases broken? with
      | some r => simp [run, Yield.ofRefusal, Yield.toExcept]
      | none =>
          simp only [run, true_and]
          constructor
          · intro h
            exact ⟨[], p, ns, .nil p, h, rfl⟩
          · rintro ⟨front, q, back, hread, hfin, rfl⟩
            cases hread
            exact hfin
  | cons t ts ih =>
      cases hacc : p.accept w t with
      | error r =>
          rw [run_cons_of_error hacc]
          constructor
          · intro h
            simp [Yield.toExcept] at h
          · rintro ⟨-, front, q, back, hread, -, -⟩
            cases hread with
            | cons hacc' _ => simp [hacc] at hacc'
      | ok q =>
          rw [run_cons_of_ok hacc, Yield.toExcept_prepend_eq_ok_iff]
          constructor
          · rintro ⟨rest, hrest, rfl⟩
            obtain ⟨hb, front, r, back, hread, hfin, rfl⟩ := ih.1 hrest
            exact ⟨hb, _, r, back, .cons hacc hread, hfin, by simp⟩
          · rintro ⟨hb, front, r, back, hread, hfin, rfl⟩
            cases hread with
            | cons hacc' hread =>
                obtain rfl := Except.ok.inj (hacc.symm.trans hacc')
                exact ⟨_, ih.2 ⟨hb, _, r, back, hread, hfin, rfl⟩, by simp⟩

theorem balance_eq_none_iff {last : Token} :
    p.balance last = none ↔ p.cursor.depth = 0 ∧ p.cursor.canJoin = true := by
  unfold balance
  by_cases hd : p.cursor.depth = 0 <;> cases p.cursor.canJoin <;> simp [hd]

/-- After a token the checks at the end pass if no parenthesis is open, an expression is not
expected and the pending node is complete. -/
theorem toExcept_finish_eq_ok_iff {last : Token} (hlast : p.last? = some last) :
    p.finish.toExcept = .ok ns ↔ p.cursor.depth = 0 ∧ p.cursor.canJoin = true ∧
      (∀ n ∈ p.pending?, n.isComplete = true) ∧ ns = p.pending?.toList := by
  rw [Yield.toExcept_eq_ok_iff]
  cases hp : p.pending? with
  | none => simp [finish, hlast, hp, balance_eq_none_iff, and_assoc]
  | some n =>
      cases hn : n.isComplete with
      | false => simp [finish, hlast, hp, hn, Yield.ofRefusal]
      | true => simp [finish, hlast, hp, hn, balance_eq_none_iff, and_assoc, @eq_comm _ ns]

end Progress

/-! ### From text to predicate -/

/-- A text has a predicate exactly if it is not blank and all its tokens are read up to an end that
passes the checks.  The predicate is then the output of the nodes. -/
theorem Whitelist.parse_eq_ok_some_iff {w : Whitelist} {text : String} {pr : Predicate} :
    w.parse (some text) = .ok (some pr) ↔
      Text.isBlankText text = false ∧ ∃ ts front q back, (w.scan text).toExcept = .ok ts ∧
        Progress.initial.Reads w ts front q ∧ q.finish.toExcept = .ok back ∧
        pr = .ofNodes (front ++ back) := by
  cases hb : Text.isBlankText text with
  | true => simp [parse, hb]
  | false =>
      simp only [parse, hb, Bool.false_eq_true, if_false, true_and, nodes, map_eq_ok_iff,
        Option.some.injEq, Progress.toExcept_run_eq_ok_iff]
      constructor
      · rintro ⟨ns, ⟨href, front, q, back, hread, hfin, rfl⟩, rfl⟩
        exact ⟨_, front, q, back, Yield.toExcept_eq_ok_iff.2 ⟨href, rfl⟩, hread, hfin, rfl⟩
      · rintro ⟨ts, front, q, back, hscan, hread, hfin, rfl⟩
        obtain ⟨href, rfl⟩ := Yield.toExcept_eq_ok_iff.1 hscan
        exact ⟨_, ⟨href, front, q, back, hread, hfin, rfl⟩, rfl⟩

end FilterQuery
