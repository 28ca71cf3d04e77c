/-
**The first refusal decides, whatever follows.**

A reading that stops at a token has looked at nothing behind it.  The tokens of a text remain the
first tokens of every text that goes on behind a blank, also where a literal of the shorter text is
closed by what follows.  So a token that is refused is refused again, after the same nodes.  The
other refusals, at the end of the text or at a literal that is not closed, may well go away.

Main definitions:

* `Refusal.isOfToken` — the refusals of a token that say what is wrong with it.

Main results:

* `Whitelist.exists_scan_append` — the tokens of a text are the first ones of a longer text;
* `Progress.Stops.extend` — a reading that stops at a token stops there whatever follows;
* `Progress.Stops.exists_token` — only tokens cause the refusals of tokens;
* `Whitelist.nodes_append_of_refused` — **the first refusal decides**.
-/

import FilterQuery.Proofs.Handover
import FilterQuery.Proofs.Tiling

set_option relaxedAutoImplicit false
set_option autoImplicit false

namespace FilterQuery

/-- Whether a refusal says what is wrong with a token where it stands: what it names is not
registered, not supported or not a value, or nothing of its kind may stand there. -/
def Refusal.isOfToken : Refusal → Bool
  | .unknownField _ => true
  | .unsupportedOperator _ _ => true
  | .invalidValue _ _ => true
  | .misplaced _ _ => true
  -- A parenthesis without a partner may be the last one of a text that goes on.
  | _ => false

/-! ### Readings that stop at a token -/

namespace Progress

variable {w : Whitelist} {p q : Progress} {broken? : Option Refusal} {ts : List Token}
  {ns : List Node} {t : Token} {r : Refusal}

/-- A reading that stops at a token stops there whatever follows. -/
theorem Stops.extend (h : p.Stops w broken? ts ns q (.token t) r) (us : List Token)
    (broken'? : Option Refusal) : p.Stops w broken'? (ts ++ us) ns q (.token t) r := by
  cases h with
  | token hread hrefused =>
      rw [List.append_assoc, List.cons_append]
      exact .token hread hrefused

/-- The checks at the end of a text refuse no token. -/
theorem isOfToken_of_finish (h : p.finish.refusal? = some r) : r.isOfToken = false := by
  have hbalance : ∀ last, p.balance last = some r → r.isOfToken = false := by
    intro last hlast
    unfold balance at hlast
    split at hlast
    · obtain rfl := Option.some.inj hlast
      rfl
    · split at hlast
      · obtain rfl := Option.some.inj hlast
        rfl
      · contradiction
  unfold finish at h
  split at h
  · contradiction
  · exact hbalance _ h
  · split at h
    · exact hbalance _ h
    · obtain rfl := Option.some.inj h
      rfl

/-- Only tokens cause the refusals of tokens. -/
theorem Stops.exists_token {o : Obstacle} (h : p.Stops w broken? ts ns q o r)
    (hbroken : ∀ s ∈ broken?, s.isOfToken = false) (hr : r.isOfToken = true) :
    ∃ t, o = .token t := by
  cases h with
  | token _ _ => exact ⟨_, rfl⟩
  | broken _ hend =>
      rw [hbroken r hend] at hr
      contradiction
  | ending _ _ hfinish =>
      rw [isOfToken_of_finish hfinish] at hr
      contradiction

end Progress

namespace Whitelist

variable {w : Whitelist} {f : String} {r : Refusal}

/-- The tokens of a text are the first tokens of a text that goes on behind a blank. -/
theorem exists_scan_append (w : Whitelist) (f s : String) :
    ∃ y : Yield Token, w.scan (f ++ " " ++ s) = y.prepend (w.scan f).items := by
  obtain ⟨q, htiles, -⟩ := exists_tiles_scan w f
  have hlonger := htiles.extend (d := ' ') (by decide) s.toList
  have htext : (f ++ " " ++ s).toList = f.toList ++ ' ' :: s.toList := by simp
  rw [scan, htext]
  exact ⟨_, hlonger.scanFrom_eq⟩

/-- Reading a text into tokens is refused at literals that are not closed, and nowhere else. -/
theorem isOfToken_of_scan (h : (w.scan f).refusal? = some r) : r.isOfToken = false := by
  rcases tiles_scanFrom w 0 f.toList with ⟨hclosed, -⟩ | ⟨p, body, hopen, -, -⟩
  · rw [scan, hclosed] at h
    contradiction
  · rw [scan, hopen] at h
    obtain rfl := Option.some.inj h
    rfl

/-- A blank text has no refusal, so every refusal is the result of the filter. -/
theorem parse_eq_error_iff : w.parse (some f) = .error r ↔ (w.nodes f).refusal? = some r := by
  rw [← Yield.toExcept_eq_error_iff]
  cases hblank : Text.isBlankText f with
  | true =>
      obtain ⟨hclosed, hitems⟩ := Yield.toExcept_eq_ok_iff.1
        ((toExcept_scan_eq_ok_nil_iff (w := w)).2 hblank)
      have hnodes : w.nodes f = .empty := by
        rw [nodes, hclosed, hitems]
        rfl
      simp [parse, hblank, hnodes, Yield.empty, Yield.toExcept]
  | false =>
      rw [parse, if_neg (by simp [hblank])]
      cases (w.nodes f).toExcept <;> simp [Except.map]

/-- A text whose reading stops at a token has the same nodes and the same refusal with anything
behind it and a blank in between. -/
theorem nodes_append_of_stops {ns : List Node} {q : Progress} {t : Token}
    (h : Progress.initial.Stops w (w.scan f).refusal? (w.scan f).items ns q (.token t) r)
    (s : String) : w.nodes (f ++ " " ++ s) = w.nodes f := by
  obtain ⟨y, hscan⟩ := exists_scan_append w f s
  -- How the longer text ends is left open: the reading stops before.
  have hlonger := h.extend y.items y.refusal?
  have hnodes : w.nodes (f ++ " " ++ s) =
      Progress.initial.run w y.refusal? ((w.scan f).items ++ y.items) := by
    rw [nodes, hscan]
    rfl
  rw [hnodes, Progress.run_eq_of_stops hlonger, nodes, Progress.run_eq_of_stops h]

/-- **The first refusal decides, whatever follows.**  If a token is refused for what is wrong with
it, then with anything behind the text and a blank in between the nodes and the refusal are the
same, also for a traversal that takes them one by one. -/
theorem nodes_append_of_refused (h : (w.nodes f).refusal? = some r) (hr : r.isOfToken = true)
    (s : String) :
    w.nodes (f ++ " " ++ s) = w.nodes f ∧
      (∀ m, (Traversal.ofFilter w (f ++ " " ++ s)).take w m =
        (Traversal.ofFilter w f).take w m) ∧
      w.parse (some (f ++ " " ++ s)) = .error r := by
  obtain ⟨ns, q, o, hstops⟩ := Progress.exists_stops_of_refusal h
  obtain ⟨t, rfl⟩ := hstops.exists_token (fun _ hend => isOfToken_of_scan hend) hr
  have hnodes := nodes_append_of_stops hstops s
  refine ⟨hnodes, fun m => ?_, ?_⟩
  · rw [Traversal.take_ofFilter, Traversal.take_ofFilter, hnodes]
  · rw [parse_eq_error_iff, hnodes, h]

/-- A literal behind the refused token is closed by what follows. -/
theorem nodes_append_of_refused_open_literal :
    (people.nodes "active and bogus eq 'x").refusal? = some (.unknownField "bogus") ∧
      (people.nodes "active and bogus eq 'x").items.length = 2 ∧
      people.nodes ("active and bogus eq 'x" ++ " " ++ "y' or (") =
        people.nodes "active and bogus eq 'x" ∧
      (∀ m,
        (Traversal.ofFilter people ("active and bogus eq 'x" ++ " " ++ "y' or (")).take people m =
          (Traversal.ofFilter people "active and bogus eq 'x").take people m) ∧
      people.parse (some ("active and bogus eq 'x" ++ " " ++ "y' or (")) =
        .error (.unknownField "bogus") := by
  have h : (people.nodes "active and bogus eq 'x").refusal? = some (.unknownField "bogus") := by
    decide +kernel
  exact ⟨h, by decide +kernel, nodes_append_of_refused h rfl "y' or ("⟩

end Whitelist

end FilterQuery
