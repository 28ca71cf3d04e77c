/-
**What is handed out before a refusal.**

A reading that is refused stops in some state at an obstacle: a token that is not accepted, a
literal that is not closed, or the end of the text.  The nodes that were handed out on the way come
before the refusal in any case.  The node that is pending where the reading stops comes before it as
well if it is complete and the obstacle is the end or a token that the node cannot take.  At a
literal that is not closed the pending node is dropped, complete or not.

Main definitions:

* `Obstacle` — what stops a reading;
* `Progress.Stops` — a reading stops in a state at an obstacle and is refused there;
* `Progress.handsOver?` — the pending node that is still handed out at an obstacle.

Main results:

* `Progress.run_eq_of_stops` — what a reading that stops has handed out;
* `Progress.exists_stops_of_refusal` — a reading that is refused stops somewhere;
* `Whitelist.take_of_refused` — **what a traversal hands out before a refusal**;
* `Whitelist.nodes_of_open_literal` — behind an accepted text a literal that is not closed drops the
  last node.
-/

import FilterQuery.Proofs.Composition
import FilterQuery.Proofs.Traversing

set_option relaxedAutoImplicit false
set_option autoImplicit false

namespace FilterQuery

/-! ### Obstacles -/

/-- What stops a reading. -/
inductive Obstacle where
  /-- A token that is not accepted. -/
  | token (t : Token)
  /-- A literal that is not closed. -/
  | broken
  /-- The end of the text. -/
  | ending

/-- Whether the obstacle is a token that the node can take. -/
def Obstacle.isTakenBy (o : Obstacle) (n : Node) : Bool :=
  match o with
  | .token t => n.canAdd t
  | _ => false

/-- The reading of the tokens stops in a state at an obstacle and is refused there.  On the way
nodes are handed out. -/
inductive Progress.Stops (w : Whitelist) (p : Progress) (broken? : Option Refusal) :
    List Token → List Node → Progress → Obstacle → Refusal → Prop where
  | token {ts us : List Token} {ns : List Node} {q : Progress} {t : Token} {r : Refusal} :
      p.Reads w ts ns q → q.accept w t = .error r →
      Progress.Stops w p broken? (ts ++ t :: us) ns q (.token t) r
  | broken {ts : List Token} {ns : List Node} {q : Progress} {r : Refusal} :
      p.Reads w ts ns q → broken? = some r → Progress.Stops w p broken? ts ns q .broken r
  | ending {ts : List Token} {ns : List Node} {q : Progress} {r : Refusal} :
      p.Reads w ts ns q → broken? = none → q.finish.refusal? = some r →
      Progress.Stops w p broken? ts ns q .ending r

/-- The pending node that is still handed out at an obstacle. -/
def Progress.handsOver? (p : Progress) (o : Obstacle) : Option Node :=
  match o with
  | .broken => none
  | o => p.pending?.filter fun n => n.isComplete && !o.isTakenBy n

/-! ### Readings that stop -/

namespace Progress

variable {w : Whitelist} {p q : Progress} {broken? : Option Refusal} {ts : List Token}
  {ns : List Node} {o : Obstacle} {r : Refusal}

theorem ended?_eq_handsOver? (p : Progress) (t : Token) : p.ended? t = p.handsOver? (.token t) := by
  have hdone : ∀ n : Node, (!n.canAdd t) = (n.isComplete && !n.canAdd t) := by
    intro n
    cases hcan : n.canAdd t with
    | true => simp
    | false => simp [Node.isComplete_of_not_canAdd hcan]
  unfold ended? handsOver?
  exact congrArg (p.pending?.filter ·) (funext hdone)

theorem items_finish_eq_handsOver? {last : Token} (hlast : p.last? = some last) :
    p.finish.items = (p.handsOver? .ending).toList := by
  cases hpending : p.pending? with
  | none => simp [finish, handsOver?, hlast, hpending]
  | some n =>
      cases hdone : n.isComplete <;>
        simp [finish, handsOver?, hlast, hpending, hdone, Obstacle.isTakenBy, Yield.ofRefusal,
          Option.filter]

/-- A reading that stops has handed out what it handed out on the way and at the obstacle. -/
theorem run_eq_of_stops (h : p.Stops w broken? ts ns q o r) :
    p.run w broken? ts = ⟨ns ++ (q.handsOver? o).toList, some r⟩ := by
  cases h with
  | @token ts us _ _ t _ hread hacc =>
      rw [hread.run_append, run_cons_of_error hacc, ended?_eq_handsOver?]
      rfl
  | broken hread hbroken =>
      have hrun := hread.run_append broken? []
      rw [List.append_nil] at hrun
      rw [hrun, hbroken, run]
      simp [Yield.prepend, Yield.ofRefusal, handsOver?]
  | ending hread hclosed hfinish =>
      have hrun := hread.run_append broken? []
      rw [List.append_nil] at hrun
      have hlast : ∃ last, q.last? = some last := by
        cases hlast : q.last? with
        | none => simp [finish, hlast, Yield.empty] at hfinish
        | some last => exact ⟨last, rfl⟩
      obtain ⟨last, hlast⟩ := hlast
      rw [hrun, hclosed, run, ← items_finish_eq_handsOver? hlast, ← hfinish]
      rfl

/-- A reading that is refused stops somewhere. -/
theorem exists_stops_of_refusal (h : (p.run w broken? ts).refusal? = some r) :
    ∃ ns q o, p.Stops w broken? ts ns q o r := by
  induction ts generalizing p with
  | nil =>
      cases hbroken : broken? with
      | some s =>
          rw [hbroken, run] at h
          obtain rfl := Option.some.inj h
          exact ⟨[], p, .broken, .broken (.nil p) rfl⟩
      | none =>
          rw [hbroken, run] at h
          exact ⟨[], p, .ending, .ending (.nil p) rfl h⟩
  | cons t ts ih =>
      cases hacc : p.accept w t with
      | error s =>
          rw [run_cons_of_error hacc] at h
          obtain rfl := Option.some.inj h
          have hstops : p.Stops w broken? ([] ++ t :: ts) [] p (.token t) s := .token (.nil p) hacc
          exact ⟨[], p, .token t, hstops⟩
      | ok p' =>
          rw [run_cons_of_ok hacc, Yield.refusal?_prepend] at h
          obtain ⟨ns, q, o, hstops⟩ := ih h
          refine ⟨(p.ended? t).toList ++ ns, q, o, ?_⟩
          cases hstops with
          | token hread hrefused => exact .token (.cons hacc hread) hrefused
          | broken hread hbroken => exact .broken (.cons hacc hread) hbroken
          | ending hread hclosed hfinish => exact .ending (.cons hacc hread) hclosed hfinish

end Progress

/-! ### Refused filters -/

namespace Whitelist

variable {w : Whitelist} {f : String} {r : Refusal}

/-- **What a traversal hands out before a refusal**: the nodes that were handed out until the
reading stopped, the pending node if it is complete and the obstacle is neither a literal that is
not closed nor a token that the node can take, then the refusal, and then nothing. -/
theorem take_of_refused (h : (w.nodes f).refusal? = some r) :
    ∃ ns q o, Progress.initial.Stops w (w.scan f).refusal? (w.scan f).items ns q o r ∧
      ∀ m, (Traversal.ofFilter w f).take w m =
        (List.range m).map fun i =>
          ((ns ++ (q.handsOver? o).toList).map .ok ++ [.error r])[i]? := by
  obtain ⟨ns, q, o, hstops⟩ := Progress.exists_stops_of_refusal h
  have hrun : w.nodes f = ⟨ns ++ (q.handsOver? o).toList, some r⟩ :=
    Progress.run_eq_of_stops hstops
  refine ⟨ns, q, o, hstops, fun m => ?_⟩
  rw [Traversal.take_ofFilter, hrun]
  rfl

theorem take_of_refused_pending_at_end :
    (people.nodes "age gt 3 and active or").refusal? = some (.incomplete "or" 20) ∧
      ∃ ns q o, Progress.initial.Stops people (people.scan "age gt 3 and active or").refusal?
          (people.scan "age gt 3 and active or").items ns q o (.incomplete "or" 20) ∧
        ∀ m, (Traversal.ofFilter people "age gt 3 and active or").take people m =
          (List.range m).map fun i =>
            ((ns ++ (q.handsOver? o).toList).map .ok ++ [.error (.incomplete "or" 20)])[i]? := by
  have h : (people.nodes "age gt 3 and active or").refusal? = some (.incomplete "or" 20) := by
    decide +kernel
  exact ⟨h, take_of_refused h⟩

/-! ### Literals that are not closed -/

/-- The tokens of an accepted text and a literal that is not closed. -/
theorem scan_open_literal {g : String} (hf : (w.scan f).refusal? = none)
    (hg : Text.takeLiteral? g.toList = none) :
    w.scan (f ++ " '" ++ g) =
      ⟨(w.scan f).items, some (.unterminatedLiteral (f.utf8ByteSize + 1))⟩ := by
  have hchars : (f ++ " '" ++ g).toList = f.toList ++ ' ' :: '\'' :: g.toList := by simp
  have hsize : 0 + Text.byteLength f.toList = f.utf8ByteSize := by
    rw [Nat.zero_add, Text.byteLength_toList]
  have hskip : Text.skipBlanks (' ' :: '\'' :: g.toList) = '\'' :: g.toList := rfl
  have htake : w.takeToken? '\'' g.toList = none := by simp [takeToken?, hg]
  rw [scan, hchars, scanFrom_append (by decide) _ hf, hsize, scanFrom_of_open w _ hskip htake]
  have hblank : Text.byteLength ((' ' :: '\'' :: g.toList).takeWhile Text.isBlank) = 1 := rfl
  simp [Yield.prepend, Yield.ofRefusal, scan, hblank]

/-- Behind an accepted text a literal that is not closed drops the last node. -/
theorem nodes_of_open_literal {g : String} (hf : ∃ pr, w.parse (some f) = .ok (some pr))
    (hg : Text.takeLiteral? g.toList = none) :
    ∃ ns q n, Progress.initial.Stops w (w.scan (f ++ " '" ++ g)).refusal?
        (w.scan (f ++ " '" ++ g)).items ns q .broken (.unterminatedLiteral (f.utf8ByteSize + 1)) ∧
      q.pending? = some n ∧ n.isComplete = true ∧ (w.nodes f).items = ns ++ [n] ∧
      w.nodes (f ++ " '" ++ g) = ⟨ns, some (.unterminatedLiteral (f.utf8ByteSize + 1))⟩ := by
  obtain ⟨hclosed, -, -, ns, q, n, hread, hq, hnodes⟩ := exists_settled_of_accepts hf
  have hscan := scan_open_literal hclosed hg
  have hstops : Progress.initial.Stops w (w.scan (f ++ " '" ++ g)).refusal?
      (w.scan (f ++ " '" ++ g)).items ns q .broken
      (.unterminatedLiteral (f.utf8ByteSize + 1)) := by
    rw [hscan]
    exact .broken hread rfl
  have hrun := Progress.run_eq_of_stops hstops
  refine ⟨ns, q, n, hstops, hq.pending?_eq, hq.isComplete, by rw [hnodes], ?_⟩
  rw [nodes, hrun]
  simp [Progress.handsOver?]

/-- A complete comparison is dropped although no token follows that it could take. -/
theorem not_handed_out_before_open_literal :
    ∃ ns q n, Progress.initial.Stops people (people.scan "age gt 3 'bob").refusal?
        (people.scan "age gt 3 'bob").items ns q .broken (.unterminatedLiteral 9) ∧
      q.pending? = some n ∧ n.isComplete = true ∧
      Obstacle.broken.isTakenBy n = false ∧ (people.nodes "age gt 3 'bob").items = [] := by
  have hf : ∃ pr, people.parse (some "age gt 3") = .ok (some pr) :=
    accepts_iff_refusal?_eq_none.2 (by decide +kernel)
  obtain ⟨ns, q, n, hstops, hpending, hdone, hnodes, hopen⟩ :=
    nodes_of_open_literal (g := "bob") hf rfl
  have htext : "age gt 3" ++ " '" ++ "bob" = "age gt 3 'bob" := rfl
  have hsize : "age gt 3".utf8ByteSize + 1 = 9 := rfl
  rw [htext, hsize] at hstops hopen
  have hlength : (people.nodes "age gt 3").items.length = 1 := by decide +kernel
  obtain rfl : ns = [] := by simpa [hnodes] using hlength
  exact ⟨[], q, n, hstops, hpending, hdone, rfl, by rw [hopen]⟩

end Whitelist

end FilterQuery
