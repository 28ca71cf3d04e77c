/-
**The cursor is what the started nodes make of it.**

The cursor has four parts, and a token that starts a node writes only some of them.  What they say
is nevertheless fixed by the nodes that have been started so far: the last of them decides what may
come next, and the parentheses among them give the depth.  The parentheses of lists and calls are
part of other nodes: a token that a pending node takes leaves the cursor alone.  So this holds in
every state of a reading, and the depth is never lowered below zero.

Main definitions:

* `Node.joins`, `Node.opens`, `Node.closes` — what a node says about what follows it;
* `Progress.Tracks` — the cursor agrees with the nodes that have been started;
* `Whitelist.Visits` — the reading of a filter comes to a state, after some nodes have been started;
* `Traversal.after` — a traversal that has been asked a number of times.

Main results:

* `Progress.Tracks.taken`, `Progress.Tracks.started` — an accepted token keeps the agreement;
* `Whitelist.Visits.tracks` — so does the reading of a filter;
* `Traversal.exists_reads_after` — a traversal that is not over stands where a reading of its tokens
  stands;
* `Whitelist.tracks_of_visits` — **in every state of a reading the cursor agrees with the nodes**.
-/

import FilterQuery.Proofs.Completeness
import FilterQuery.Traversal
import Mathlib.Data.List.Infix
import Mathlib.Logic.Function.Iterate

set_option relaxedAutoImplicit false
set_option autoImplicit false

namespace FilterQuery

/-! ### Operands and parentheses among nodes -/

namespace Node

/-- A logical operator may follow the node, or follow it once it is complete. -/
def joins : Node → Bool
  | .comparison _ => true
  | .call _ => true
  | .closeParen _ => true
  | _ => false

/-- The node opens a parenthesis. -/
def opens : Node → Bool
  | .openParen _ => true
  | _ => false

/-- The node closes a parenthesis. -/
def closes : Node → Bool
  | .closeParen _ => true
  | _ => false

/-- Only an operand is ever not complete. -/
theorem joins_of_isComplete_eq_false {n : Node} (h : n.isComplete = false) : n.joins = true := by
  cases n with
  | comparison c => rfl
  | call c => rfl
  | _ => simp [isComplete] at h

/-- A comparison that takes a token is a comparison again, and a call is a call. -/
theorem joins_of_add {w : Whitelist} {n m : Node} {t : Token} (h : n.add w t = .ok m) :
    m.joins = n.joins := by
  cases n with
  | comparison c =>
      obtain ⟨d, -, rfl⟩ := map_eq_ok_iff.1 h
      rfl
  | call c =>
      obtain ⟨d, -, rfl⟩ := map_eq_ok_iff.1 h
      rfl
  | _ => contradiction

end Node

/-! ### What a start does to the cursor -/

namespace Cursor.Starts

variable {w : Whitelist} {c d : Cursor} {t : Token} {k : Kind} {n : Node}

/-- The node decides whether a logical operator may follow. -/
theorem canJoin_eq (h : c.Starts w t k d n) : d.canJoin = n.joins := by
  cases h <;> rfl

/-- Either an expression or a logical operator may follow, never both. -/
theorem canJoin_eq_not_canOpen (h : c.Starts w t k d n) : d.canJoin = !d.canOpen := by
  cases h with
  | comparison _ _ _ => rfl
  | call _ _ _ _ => rfl
  | openParen hopen => simp [hopen]
  | closeParen _ hopen _ => simp [hopen]
  | connective _ _ => rfl
  | negation _ hopen => simp [hopen]

/-- Only the start of a negation asks for a parenthesis. -/
theorem afterNot_iff (h : c.Starts w t k d n) :
    d.afterNot = true ↔ n = .logical (.single .negation) := by
  cases h with
  | comparison hnot _ _ => simp [enterOperand, hnot]
  | call hnot _ _ _ => simp [enterOperand, hnot]
  | openParen _ => simp
  | closeParen hnot _ _ => simp [hnot]
  | @connective g hnot _ =>
      have hne : KindSet.single g.kind ≠ .single .negation := by cases g <;> decide
      simp [hnot, hne]
  | negation _ _ => simp

/-- The parenthesis that a negation asks for may come. -/
theorem canOpen_of_afterNot (h : c.Starts w t k d n) (hnot : d.afterNot = true) :
    d.canOpen = true := by
  -- A negation is no operand, so an expression may start behind it.
  have hjoin : d.canJoin = false := by
    rw [h.canJoin_eq, h.afterNot_iff.1 hnot]
    rfl
  simpa [hjoin] using h.canJoin_eq_not_canOpen

/-- The depth changes with the parenthesis that is started, and with nothing else. -/
theorem depth_add (h : c.Starts w t k d n) :
    d.depth + [n].countP Node.closes = c.depth + [n].countP Node.opens := by
  cases h with
  | closeParen _ _ hdepth =>
      have hback : c.depth - 1 + 1 = c.depth := Nat.sub_one_add_one hdepth
      simpa [Node.opens, Node.closes] using hback
  | _ => simp [Node.opens, Node.closes, enterOperand]

end Cursor.Starts

/-! ### The cursor and the nodes -/

namespace Progress

/-- The cursor agrees with the nodes that have been started, in order. -/
structure Tracks (p : Progress) (started : List Node) : Prop where
  /-- A logical operator may come exactly where no expression may start. -/
  canJoin_eq_not_canOpen : p.cursor.canJoin = !p.cursor.canOpen
  /-- The last node decides whether a logical operator may come. -/
  canJoin_eq : p.cursor.canJoin = started.getLast?.any Node.joins
  /-- A parenthesis is asked for exactly if the last node is a negation. -/
  afterNot_iff : p.cursor.afterNot = true ↔
    started.getLast? = some (.logical (.single .negation))
  /-- The parenthesis that is asked for may come. -/
  canOpen_of_afterNot : p.cursor.afterNot = true → p.cursor.canOpen = true
  /-- The depth is the number of opened parentheses less that of closed ones. -/
  depth_add : p.cursor.depth + started.countP Node.closes = started.countP Node.opens
  /-- At no time more parentheses have been closed than opened. -/
  closes_le_opens : ∀ front, front <+: started →
    front.countP Node.closes ≤ front.countP Node.opens
  /-- The pending node decides it as well, whatever it has taken since its start. -/
  canJoin_eq_joins : ∀ n ∈ p.pending?, p.cursor.canJoin = n.joins

namespace Tracks

variable {w : Whitelist} {p : Progress} {ns : List Node} {n m : Node} {t : Token} {k : Kind}
  {d : Cursor}

theorem initial : Progress.initial.Tracks [] where
  canJoin_eq_not_canOpen := rfl
  canJoin_eq := rfl
  afterNot_iff := by simp [Progress.initial, Cursor.initial]
  canOpen_of_afterNot := fun _ => rfl
  depth_add := rfl
  closes_le_opens := by simp
  canJoin_eq_joins := by simp [Progress.initial]

/-- Behind a pending node that is not complete a logical operator may come. -/
theorem canJoin_of_isComplete_eq_false (h : p.Tracks ns) (hn : n ∈ p.pending?)
    (hopen : n.isComplete = false) : p.cursor.canJoin = true :=
  (h.canJoin_eq_joins n hn).trans (Node.joins_of_isComplete_eq_false hopen)

/-- A token that the pending node takes starts nothing and leaves the cursor alone. -/
theorem taken (h : p.Tracks ns) (hn : p.taker? t = some n) (hadd : n.add w t = .ok m) :
    Tracks ⟨p.cursor, some m, some t⟩ ns := by
  have hpending : n ∈ p.pending? := (Option.filter_eq_some_iff.1 hn).1
  refine { h with canJoin_eq_joins := ?_ }
  intro l hl
  obtain rfl := Option.some.inj hl
  rw [Node.joins_of_add hadd]
  exact h.canJoin_eq_joins n hpending

/-- A token that starts a node puts it behind the others and sets the cursor accordingly. -/
theorem started (h : p.Tracks ns) (hs : p.cursor.Starts w t k d n) :
    Tracks ⟨d, some n, some t⟩ (ns ++ [n]) := by
  have hdepth : d.depth + (ns ++ [n]).countP Node.closes = (ns ++ [n]).countP Node.opens := by
    have hbefore := h.depth_add
    have hstep := hs.depth_add
    rw [List.countP_append, List.countP_append]
    omega
  refine ⟨hs.canJoin_eq_not_canOpen, ?_, ?_, hs.canOpen_of_afterNot, hdepth, ?_, ?_⟩
  · simpa using hs.canJoin_eq
  · simpa using hs.afterNot_iff
  · intro front hfront
    -- For the whole list it is the new depth that says so.
    rcases List.prefix_concat_iff.1 hfront with rfl | hfront
    · omega
    · exact h.closes_le_opens front hfront
  · intro m hm
    obtain rfl := Option.some.inj hm
    exact hs.canJoin_eq

/-- The end of the text takes the pending node and leaves the cursor alone. -/
theorem finished (h : p.Tracks ns) : Tracks { p with pending? := none } ns :=
  { h with canJoin_eq_joins := by simp }

end Tracks

end Progress

/-! ### The states of a reading -/

namespace Whitelist

/-- The reading of a filter comes to a state without a refusal.  Until then the given nodes have
been started, in order, and the given tokens are left. -/
inductive Visits (w : Whitelist) (filter : String) :
    Progress → List Node → List Token → Prop where
  | initial : Visits w filter .initial [] (w.scan filter).items
  /-- The pending node takes a token. -/
  | taken {p : Progress} {started : List Node} {t : Token} {rest : List Token} {n m : Node} :
      Visits w filter p started (t :: rest) → p.taker? t = some n → n.add w t = .ok m →
      Visits w filter ⟨p.cursor, some m, some t⟩ started rest
  /-- A token starts a node. -/
  | started {p : Progress} {started : List Node} {t : Token} {rest : List Token} {c : Cursor}
      {n : Node} :
      Visits w filter p started (t :: rest) → p.taker? t = none → p.cursor.start w t = .ok (c, n) →
      Visits w filter ⟨c, some n, some t⟩ (started ++ [n]) rest
  /-- The text has ended and the checks have passed. -/
  | finished {p : Progress} {started : List Node} :
      Visits w filter p started [] → (w.scan filter).refusal? = none →
      p.finish.refusal? = none → Visits w filter { p with pending? := none } started []

variable {w : Whitelist} {filter : String} {p q : Progress} {started : List Node}
  {t : Token} {ts rest : List Token} {ns : List Node}

theorem Visits.suffix (h : w.Visits filter p started rest) :
    rest <:+ (w.scan filter).items := by
  induction h with
  | initial => exact List.suffix_rfl
  | taken _ _ _ ih => exact (List.suffix_cons _ _).trans ih
  | started _ _ _ ih => exact (List.suffix_cons _ _).trans ih
  | finished _ _ _ ih => exact ih

/-- The tokens that are left have one kind each. -/
theorem Visits.exists_isA (h : w.Visits filter p started (t :: rest)) : ∃ k, t.IsA k :=
  exists_isA_of_mem_scanFrom w 0 filter.toList t (h.suffix.subset (List.mem_cons_self ..))

/-- In every state of a reading the cursor agrees with the nodes. -/
theorem Visits.tracks (h : w.Visits filter p started rest) : p.Tracks started := by
  induction h with
  | initial => exact .initial
  | taken _ hn hadd ih => exact ih.taken hn hadd
  | started hp _ hs ih =>
      obtain ⟨k, hk⟩ := hp.exists_isA
      exact ih.started (Cursor.starts_of_start hk hs)
  | finished _ _ _ ih => exact ih.finished

/-- A token that closes a parenthesis lowers the depth by one. -/
theorem Visits.depth_add_one {c : Cursor} {u : Token}
    (h : w.Visits filter p started (t :: rest))
    (hs : p.cursor.start w t = .ok (c, .closeParen u)) : c.depth + 1 = p.cursor.depth := by
  obtain ⟨k, hk⟩ := h.exists_isA
  simpa [Node.opens, Node.closes] using (Cursor.starts_of_start hk hs).depth_add

/-- An accepted token leads to a further state. -/
theorem Visits.accept (h : w.Visits filter p started (t :: rest)) (hacc : p.accept w t = .ok q) :
    ∃ started', w.Visits filter q started' rest := by
  unfold Progress.accept at hacc
  split at hacc
  · next n hn =>
      obtain ⟨m, hm, rfl⟩ := map_eq_ok_iff.1 hacc
      exact ⟨_, h.taken hn hm⟩
  · next hnone =>
      obtain ⟨r, hs, rfl⟩ := map_eq_ok_iff.1 hacc
      exact ⟨_, h.started hnone hs⟩

/-- A reading leads from state to state. -/
theorem Visits.reads (h : w.Visits filter p started (ts ++ rest)) (hread : p.Reads w ts ns q) :
    ∃ started', w.Visits filter q started' rest := by
  induction hread generalizing started with
  | nil p => exact ⟨_, h⟩
  | cons hacc _ ih =>
      obtain ⟨_, hq⟩ := h.accept hacc
      exact ih hq

/-- A filter that is not refused is read up to its end. -/
theorem exists_visits_finished (h : (w.nodes filter).refusal? = none) :
    ∃ p started, w.Visits filter p started [] ∧ p.pending? = none := by
  obtain ⟨hclosed, ns, q, back, hread, hfinish, -⟩ :=
    Progress.toExcept_run_eq_ok_iff.1 (Yield.toExcept_eq_ok_iff.2 ⟨h, rfl⟩)
  have hstart : w.Visits filter .initial [] ((w.scan filter).items ++ []) := by
    rw [List.append_nil]
    exact .initial
  obtain ⟨started, hq⟩ := hstart.reads hread
  exact ⟨_, started, hq.finished hclosed (Yield.toExcept_eq_ok_iff.1 hfinish).1, rfl⟩

end Whitelist

/-! ### The states of a traversal -/

namespace Traversal

variable {w : Whitelist} {t u : Traversal}

/-- A traversal that has been asked a number of times. -/
def after (w : Whitelist) (t : Traversal) (calls : Nat) : Traversal :=
  (fun t => (t.next w).2)^[calls] t

/-- Handing out an item changes nothing but what is ready. -/
theorem eq_of_pop? {item : Except Refusal Node} (h : t.pop? = some (item, u)) :
    u.progress = t.progress ∧ u.rest = t.rest ∧ u.isOver = t.isOver := by
  unfold pop? at h
  split at h
  · obtain ⟨-, rfl⟩ := Prod.mk.inj (Option.some.inj h)
    exact ⟨rfl, rfl, rfl⟩
  · obtain ⟨-, rfl⟩ := Prod.mk.inj (Option.some.inj h)
    exact ⟨rfl, rfl, rfl⟩
  · contradiction

/-- Reading on that does not come to an end has read some of the tokens. -/
theorem exists_reads_advance {p : Progress} {ts : List Token}
    (h : (t.advance w p ts).isOver = false) :
    ∃ us ns, p.Reads w us ns (t.advance w p ts).progress ∧ us ++ (t.advance w p ts).rest = ts := by
  induction ts generalizing p with
  | nil =>
      unfold advance at h
      cases hbroken : t.broken? <;> simp [hbroken, ending] at h
  | cons x xs ih =>
      unfold advance at h ⊢
      cases hacc : p.accept w x with
      | error r => simp [hacc, ending] at h
      | ok q =>
          cases hended : p.ended? x with
          | some n => exact ⟨[x], _, .single hacc, rfl⟩
          | none =>
              simp only [hacc, hended] at h ⊢
              obtain ⟨us, ns, hread, hrest⟩ := ih h
              exact ⟨x :: us, _, .cons hacc hread, by rw [List.cons_append, hrest]⟩

/-- A step after which the traversal is not over has read some of the tokens. -/
theorem exists_reads_next (h : (t.next w).2.isOver = false) :
    t.isOver = false ∧
      ∃ us ns, t.progress.Reads w us ns (t.next w).2.progress ∧
        us ++ (t.next w).2.rest = t.rest := by
  obtain ⟨read, hread⟩ : ∃ read,
      read = if t.pop?.isNone && !t.isOver then t.advance w t.progress t.rest else t := ⟨_, rfl⟩
  -- The state is moved by reading on, and not by handing out what is ready afterwards.
  have hsame : (t.next w).2.progress = read.progress ∧ (t.next w).2.rest = read.rest ∧
      (t.next w).2.isOver = read.isOver := by
    rw [next, ← hread]
    cases hpop : read.pop? with
    | none => exact ⟨rfl, rfl, rfl⟩
    | some r => exact eq_of_pop? hpop
  obtain ⟨hprogress, hrest, hover⟩ := hsame
  rw [hprogress, hrest]
  rw [hover] at h
  split at hread
  · next hidle =>
      subst hread
      exact ⟨by simpa using (Bool.and_eq_true_iff.1 hidle).2, exists_reads_advance h⟩
  · subst hread
    exact ⟨h, [], [], .nil _, rfl⟩

/-- A traversal that is not over stands where a reading of its tokens stands. -/
theorem exists_reads_after {calls : Nat} (h : (t.after w calls).isOver = false) :
    ∃ us ns, t.progress.Reads w us ns (t.after w calls).progress ∧
      us ++ (t.after w calls).rest = t.rest := by
  induction calls with
  | zero => exact ⟨[], [], .nil _, rfl⟩
  | succ calls ih =>
      have hnext : t.after w (calls + 1) = ((t.after w calls).next w).2 :=
        Function.iterate_succ_apply' _ _ _
      rw [hnext] at h ⊢
      obtain ⟨hover, vs, ms, hread', hrest'⟩ := exists_reads_next h
      obtain ⟨us, ns, hread, hrest⟩ := ih hover
      exact ⟨us ++ vs, _, hread.append hread', by rw [List.append_assoc, hrest', hrest]⟩

end Traversal

/-! ### Filters -/

namespace Whitelist

variable {w : Whitelist} {filter : String}

/-- A traversal of a filter that is not over stands in a state of the reading of the filter. -/
theorem exists_visits_after {calls : Nat}
    (h : ((Traversal.ofFilter w filter).after w calls).isOver = false) :
    ∃ started, w.Visits filter ((Traversal.ofFilter w filter).after w calls).progress started
      ((Traversal.ofFilter w filter).after w calls).rest := by
  obtain ⟨us, ns, hread, hrest⟩ := Traversal.exists_reads_after h
  have hstart : w.Visits filter (Traversal.ofFilter w filter).progress []
      (us ++ ((Traversal.ofFilter w filter).after w calls).rest) := by
    rw [hrest]
    exact .initial
  exact hstart.reads hread

/-- **In every state of a reading the cursor agrees with the nodes that have been started**: a
logical operator may come exactly where no expression may start, a parenthesis is asked for exactly
behind a negation, the depth counts the parentheses that are open, never more being closed than
opened, and behind a node that is not complete a logical operator may come.  A closing parenthesis
therefore always lowers a depth that is not zero.  The states are those of the traversal as long as
it is not over, and where the filter is not refused they go on to the end of the text. -/
theorem tracks_of_visits (w : Whitelist) (filter : String) :
    (∀ p started rest, w.Visits filter p started rest → p.Tracks started ∧
      ∀ n ∈ p.pending?, n.isComplete = false → p.cursor.canJoin = true) ∧
    (∀ p started t rest c u, w.Visits filter p started (t :: rest) →
      p.cursor.start w t = .ok (c, .closeParen u) → c.depth + 1 = p.cursor.depth) ∧
    (∀ calls u, u = (Traversal.ofFilter w filter).after w calls → u.isOver = false →
      ∃ started, w.Visits filter u.progress started u.rest) ∧
    ((w.nodes filter).refusal? = none →
      ∃ p started, w.Visits filter p started [] ∧ p.pending? = none) := by
  refine ⟨?_, ?_, ?_, exists_visits_finished⟩
  · intro p started rest h
    exact ⟨h.tracks, fun n hn hopen => h.tracks.canJoin_of_isComplete_eq_false hn hopen⟩
  · intro p started t rest c u h hs
    exact h.depth_add_one hs
  · rintro calls _ rfl h
    exact exists_visits_after h

/-- A filter with a negated group and with parentheses that belong to a call. -/
def negatedGroup : String :=
  "active and not (contains(name, 'a') or active)"

/-- The traversal of the filter after some calls. -/
def inNegatedGroup (calls : Nat) : Traversal :=
  (Traversal.ofFilter people negatedGroup).after people calls

/-- Two calls lead up to the parenthesis that the negation asks for, four into the unfinished call,
and six up to the parenthesis that closes the group. -/
theorem tracks_of_visits_negatedGroup :
    (∃ started, people.Visits negatedGroup (inNegatedGroup 2).progress started
        (inNegatedGroup 2).rest ∧ (inNegatedGroup 2).progress.Tracks started ∧
      (inNegatedGroup 2).progress.cursor = ⟨true, false, 0, true⟩) ∧
    (∃ n ∈ (inNegatedGroup 4).progress.pending?, n.isComplete = false ∧
      (inNegatedGroup 4).progress.cursor.canJoin = true) ∧
    (∃ c u t, (inNegatedGroup 6).rest = [t] ∧
      (inNegatedGroup 6).progress.cursor.start people t = .ok (c, .closeParen u) ∧
      c.depth + 1 = (inNegatedGroup 6).progress.cursor.depth) ∧
    ∃ p started, people.Visits negatedGroup p started [] ∧ p.pending? = none := by
  obtain ⟨htracks, hcloses, hstands, hfinished⟩ := tracks_of_visits people negatedGroup
  refine ⟨?_, ?_, ?_, hfinished (by decide +kernel)⟩
  · obtain ⟨started, h⟩ := hstands 2 (inNegatedGroup 2) rfl (by decide +kernel)
    exact ⟨started, h, (htracks _ _ _ h).1, by decide +kernel⟩
  · obtain ⟨started, h⟩ := hstands 4 (inNegatedGroup 4) rfl (by decide +kernel)
    have hopen : (inNegatedGroup 4).progress.pending?.map Node.isComplete = some false := by
      decide +kernel
    obtain ⟨n, hn, hopen⟩ := Option.map_eq_some_iff.1 hopen
    exact ⟨n, hn, hopen, (htracks _ _ _ h).2 n hn hopen⟩
  · obtain ⟨started, h⟩ := hstands 6 (inNegatedGroup 6) rfl (by decide +kernel)
    have hrest : (inNegatedGroup 6).rest = [⟨.single .closeParen, 45, ")"⟩] := by decide +kernel
    have hcursor : (inNegatedGroup 6).progress.cursor = ⟨false, true, 1, false⟩ := by
      decide +kernel
    have hparen : Token.IsA ⟨.single .closeParen, 45, ")"⟩ .closeParen := rfl
    have hstart := Cursor.start_of_starts (w := people) hparen
      (.closeParen (c := ⟨false, true, 1, false⟩) rfl rfl Nat.one_ne_zero)
    rw [hrest] at h
    rw [← hcursor] at hstart
    exact ⟨_, _, _, hrest, hstart, hcloses _ _ _ _ _ _ h hstart⟩

end Whitelist

end FilterQuery
