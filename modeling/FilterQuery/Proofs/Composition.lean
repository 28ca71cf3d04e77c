/-
**Filters that are made of filters.**

An accepted filter leaves the reading where an expression has ended outside all parentheses.  After
a connective an expression is expected there just as it is at the start, so what follows is read as
if it stood alone.  Inside a pair of parentheses the same nodes are handed out one level deeper.
Positions move by the bytes that stand in front.

Main definitions:

* `Connective.keyword` — the word of a connective;
* `Node.shift` — a node whose tokens stand later;
* `Cursor.deepen`, `Progress.deepen` — the same place inside further parentheses.

Main results:

* `Progress.Reads.deepen` — what is read without a refusal is read inside parentheses as well;
* `Progress.run_behind` — a pending node that takes no token is handed out and then forgotten;
* `Whitelist.nodes_eq_run_behind` — where an expression is expected a text is read as it is read
  at the start;
* `Whitelist.nodes_of_composed` — **the nodes of composed filters**.
-/

import FilterQuery.Proofs.Concatenation
import FilterQuery.Proofs.Mirroring

set_option relaxedAutoImplicit false
set_option autoImplicit false

namespace FilterQuery

/-- The word of a connective. -/
def Connective.keyword : Connective → String
  | .conjunction => "and"
  | .disjunction => "or"

/-! ### Reading at a later position -/

/-- A node whose tokens stand `offset` bytes later. -/
def Node.shift (offset : Nat) : Node → Node
  | .openParen t => .openParen (t.shift offset)
  | .closeParen t => .closeParen (t.shift offset)
  | n => n

/-- Texts are the same, and positions differ by `offset`. -/
def Likeness.shifted (offset : Nat) : Likeness where
  text := Eq
  position i j := j = i + offset
  text_refl _ := rfl

section Shift

variable {w : Whitelist} {offset : Nat}

theorem Token.mirrors_shift (t : Token) : t.Mirrors w (.shifted offset) (t.shift offset) :=
  ⟨rfl, rfl, rfl, fun _ => rfl, fun _ _ _ _ => rfl⟩

theorem Token.eq_shift_of_mirrors {t u : Token} (h : t.Mirrors w (.shifted offset) u) :
    u = t.shift offset := by
  obtain ⟨kinds, start, text⟩ := t
  obtain ⟨kinds', start', text'⟩ := u
  obtain ⟨hkinds, htext, hstart, -, -⟩ := h
  dsimp only at hkinds
  obtain rfl : text = text' := htext
  obtain rfl : start' = start + offset := hstart
  rw [hkinds]
  rfl

theorem Refusal.mirrors_shift (r : Refusal) : r.Mirrors (.shifted offset) (r.shift offset) := by
  cases r with
  | unterminatedLiteral start => exact .unterminatedLiteral rfl
  | unknownField name => exact .unknownField rfl
  | unsupportedOperator field operator => exact .unsupportedOperator field rfl
  | invalidValue field value => exact .invalidValue field rfl
  | misplaced text start => exact .misplaced rfl rfl
  | unbalanced text start => exact .unbalanced rfl rfl
  | incomplete text start => exact .incomplete rfl rfl
  | ordering fault => exact .ordering fault
  | duplicateField name => exact .duplicateField name

theorem Refusal.eq_shift_of_mirrors {r s : Refusal} (h : r.Mirrors (.shifted offset) s) :
    s = r.shift offset := by
  cases h with
  | unterminatedLiteral hpos => rw [hpos]; rfl
  | unknownField htext => rw [htext]; rfl
  | unsupportedOperator field htext => rw [htext]; rfl
  | invalidValue field htext => rw [htext]; rfl
  | misplaced htext hpos => rw [htext, hpos]; rfl
  | unbalanced htext hpos => rw [htext, hpos]; rfl
  | incomplete htext hpos => rw [htext, hpos]; rfl
  | ordering fault => rfl
  | duplicateField name => rfl

theorem Node.eq_shift_of_mirrors {n m : Node} (h : n.Mirrors w (.shifted offset) m) :
    m = n.shift offset := by
  cases h with
  | openParen ht => rw [Token.eq_shift_of_mirrors ht]; rfl
  | closeParen ht => rw [Token.eq_shift_of_mirrors ht]; rfl
  | _ => rfl

theorem Node.map_shift_of_mirrors {ns ms : List Node}
    (h : List.Forall₂ (Node.Mirrors w (.shifted offset)) ns ms) :
    ms = ns.map (Node.shift offset) := by
  induction h with
  | nil => rfl
  | cons hn _ ih => rw [Node.eq_shift_of_mirrors hn, ih]; rfl

theorem Token.forall₂_mirrors_shift (ts : List Token) :
    List.Forall₂ (Token.Mirrors w (.shifted offset)) ts (ts.map (Token.shift offset)) := by
  induction ts with
  | nil => exact .nil
  | cons t ts ih => exact .cons t.mirrors_shift ih

/-- Tokens that stand later are read as they are read earlier. -/
theorem Progress.run_shift (c : Cursor) (broken? : Option Refusal) (ts : List Token) :
    (⟨c, none, none⟩ : Progress).run w (broken?.map (Refusal.shift offset))
        (ts.map (Token.shift offset)) =
      ((⟨c, none, none⟩ : Progress).run w broken? ts).mapBoth (Node.shift offset)
        (Refusal.shift offset) := by
  have hbroken : Option.Rel (Refusal.Mirrors (.shifted offset)) broken?
      (broken?.map (Refusal.shift offset)) := by
    cases broken? with
    | none => exact .none
    | some r => exact .some r.mirrors_shift
  have hrun := (Mirrors.of_empty (w := w) (.shifted offset) c).run
    (Token.forall₂_mirrors_shift ts) hbroken
  generalize (⟨c, none, none⟩ : Progress).run w broken? ts = y at hrun ⊢
  generalize (⟨c, none, none⟩ : Progress).run w _ _ = z at hrun ⊢
  obtain ⟨items, refusal?⟩ := y
  obtain ⟨items', refusal'?⟩ := z
  obtain ⟨hitems, hrefusal⟩ := hrun
  obtain rfl := Node.map_shift_of_mirrors hitems
  cases hrefusal with
  | none => rfl
  | some hr => rw [Refusal.eq_shift_of_mirrors hr]; rfl

end Shift

/-! ### Reading inside parentheses -/

/-- The same place inside `levels` further parentheses. -/
def Cursor.deepen (levels : Nat) (c : Cursor) : Cursor :=
  { c with depth := c.depth + levels }

/-- The same state inside `levels` further parentheses. -/
def Progress.deepen (levels : Nat) (p : Progress) : Progress :=
  { p with cursor := p.cursor.deepen levels }

section Deepen

variable {w : Whitelist} {t : Token} {k : Kind} {ts : List Token} {ns : List Node}

/-- What a token starts it starts inside further parentheses as well. -/
theorem Cursor.Starts.deepen {c d : Cursor} {n : Node} (levels : Nat) (h : c.Starts w t k d n) :
    (c.deepen levels).Starts w t k (d.deepen levels) n := by
  cases h with
  | comparison hnot hopen hn => exact .comparison hnot hopen hn
  | call hnot hopen hfn hn => exact .call hnot hopen hfn hn
  | openParen hopen =>
      have hdepth : c.depth + levels + 1 = c.depth + 1 + levels := by omega
      have hstart : (c.deepen levels).Starts w t .openParen _ (.openParen t) := .openParen hopen
      simp only [Cursor.deepen, hdepth] at hstart ⊢
      exact hstart
  | closeParen hnot hopen hd =>
      have hdepth : c.depth + levels - 1 = c.depth - 1 + levels := by omega
      have hstart : (c.deepen levels).Starts w t .closeParen _ (.closeParen t) :=
        .closeParen hnot hopen (by simp only [Cursor.deepen]; omega)
      simp only [Cursor.deepen, hdepth] at hstart ⊢
      exact hstart
  | connective hnot hjoin => exact .connective hnot hjoin
  | negation hnot hopen => exact .negation hnot hopen

theorem Progress.Accepts.deepen {p q : Progress} (levels : Nat) (h : p.Accepts w t k q) :
    (p.deepen levels).Accepts w t k (q.deepen levels) := by
  cases h with
  | taken hpend hcan hadd => exact .taken hpend hcan hadd
  | started hnone hs => exact .started hnone (hs.deepen levels)

/-- What is read without a refusal is read inside further parentheses as well. -/
theorem Progress.Reads.deepen {p q : Progress} (levels : Nat) (hk : ∀ t ∈ ts, ∃ k, t.IsA k)
    (h : p.Reads w ts ns q) : (p.deepen levels).Reads w ts ns (q.deepen levels) := by
  induction h with
  | nil p => exact .nil _
  | @cons p q r t ts ns hacc _ ih =>
      obtain ⟨k, ht⟩ := hk t (by simp)
      have hstep := ((accept_eq_ok_iff ht).1 hacc).deepen levels
      have hrest := ih fun u hu => hk u (by simp [hu])
      exact .cons ((accept_eq_ok_iff ht).2 hstep) hrest

end Deepen

/-! ### Reading behind a node that takes no token -/

namespace Progress

variable {w : Whitelist} {p q : Progress} {n : Node} {t : Token} {ts us : List Token}
  {ns : List Node}

theorem accept_behind (c : Cursor) (last? : Option Token) (hn : ∀ t, n.canAdd t = false)
    (t : Token) : (⟨c, some n, last?⟩ : Progress).accept w t =
      (⟨c, none, none⟩ : Progress).accept w t := by
  have htaker : (⟨c, some n, last?⟩ : Progress).taker? t = none :=
    taker?_eq_none_iff.2 (by simpa using hn t)
  rw [accept, htaker]
  rfl

theorem ended?_behind (c : Cursor) (last? : Option Token) (hn : ∀ t, n.canAdd t = false)
    (t : Token) : (⟨c, some n, last?⟩ : Progress).ended? t = some n :=
  ended?_of_not_canAdd (by simpa using hn t)

/-- A pending node that takes no token is handed out at the next token and then forgotten. -/
theorem run_behind (c : Cursor) (last? : Option Token) (hn : ∀ t, n.canAdd t = false)
    (broken? : Option Refusal) (hts : ts ≠ []) :
    (⟨c, some n, last?⟩ : Progress).run w broken? ts =
      ((⟨c, none, none⟩ : Progress).run w broken? ts).prepend [n] := by
  cases ts with
  | nil => exact absurd rfl hts
  | cons t ts =>
      rw [run, run, accept_behind c last? hn, ended?_behind c last? hn]
      cases (⟨c, none, none⟩ : Progress).accept w t <;> rfl

theorem Reads.behind {c : Cursor} (last? : Option Token) (hn : ∀ t, n.canAdd t = false)
    (hts : ts ≠ []) (h : Reads w ⟨c, none, none⟩ ts ns q) :
    Reads w ⟨c, some n, last?⟩ ts (n :: ns) q := by
  cases h with
  | nil => exact absurd rfl hts
  | @cons _ r _ t ts ns hacc hread =>
      rw [← accept_behind c last? hn] at hacc
      have hall := Reads.cons hacc hread
      rw [ended?_behind c last? hn] at hall
      exact hall

/-- Tokens that are read without a refusal are followed by the rest of the run. -/
theorem Reads.run_append (h : p.Reads w ts ns q) (broken? : Option Refusal) (us : List Token) :
    p.run w broken? (ts ++ us) = (q.run w broken? us).prepend ns := by
  induction h with
  | nil p => rfl
  | cons hacc _ ih => rw [List.cons_append, run_cons_of_ok hacc, ih, Yield.prepend_prepend]

/-- Outside all parentheses a text may end where an expression has ended. -/
theorem Settled.finish_eq {last : Token} (h : p.Settled 0 n) (hlast : p.last? = some last) :
    p.finish = ⟨[n], none⟩ := by
  simp [finish, balance, hlast, h.pending?_eq, h.cursor_eq, h.isComplete, Cursor.operand]

/-- A node that takes no token but an operator takes none later either. -/
theorem Settled.of_mirrors {depth offset : Nat} (h : p.Settled depth n)
    (hpq : p.Mirrors w (.shifted offset) q) : q.Settled depth (n.shift offset) := by
  have hpending := hpq.pending
  rw [h.pending?_eq] at hpending
  generalize hm : q.pending? = m? at hpending
  cases hpending with
  | @some _ m hnm =>
      obtain rfl := Node.eq_shift_of_mirrors hnm
      refine ⟨hpq.cursor_eq ▸ h.cursor_eq, hm, ?_, ?_⟩
      · rw [← hnm.isComplete_eq, h.isComplete]
      · intro u hu
        have hcan := h.not_canAdd u hu
        cases n <;> exact hcan

end Progress

/-! ### Accepted filters -/

namespace Whitelist

variable {w : Whitelist} {f : String}

/-- A text is accepted exactly if it is not blank and none of its tokens is refused. -/
theorem accepts_iff_refusal?_eq_none :
    (∃ pr, w.parse (some f) = .ok (some pr)) ↔
      Text.isBlankText f = false ∧ (w.nodes f).refusal? = none := by
  cases hb : Text.isBlankText f with
  | true => simp [parse, hb]
  | false => simp [parse, hb, map_eq_ok_iff, Yield.toExcept_eq_ok_iff]

/-- The reading of an accepted text ends where an expression has ended. -/
theorem exists_settled_of_accepts (hf : ∃ pr, w.parse (some f) = .ok (some pr)) :
    (w.scan f).refusal? = none ∧ (w.scan f).items ≠ [] ∧
      (∀ t ∈ (w.scan f).items, ∃ k, t.IsA k) ∧
      ∃ ns q n, Progress.initial.Reads w (w.scan f).items ns q ∧ q.Settled 0 n ∧
        w.nodes f = ⟨ns ++ [n], none⟩ := by
  obtain ⟨pr, hpr⟩ := hf
  obtain ⟨ts, φ, hscan, hφ, -⟩ := parse_eq_ok_some_iff_derives.1 hpr
  have hkinds := exists_isA_of_mem_scan hscan
  obtain ⟨hclosed, rfl⟩ := Yield.toExcept_eq_ok_iff.1 hscan
  have hne := ne_nil_of_derives hφ
  obtain ⟨ns, q, n, hread, hq, -⟩ := Progress.expects_initial.exists_reads hφ
  refine ⟨hclosed, hne, hkinds, ns, q, n, hread, hq, ?_⟩
  obtain ⟨last, hlast⟩ := hread.exists_last? hne
  have hrun := hread.run_append none []
  rw [List.append_nil] at hrun
  rw [nodes, hclosed, hrun, Progress.run, hq.finish_eq hlast]
  rfl

/-- A text is read behind a place where an expression is expected as it is read at the start. -/
theorem nodes_eq_run_behind {n : Node} (g : String) (offset : Nat) (last? : Option Token)
    (hn : ∀ t, n.canAdd t = false) (hg : (w.scan g).items ≠ []) :
    (⟨.initial, some n, last?⟩ : Progress).run w
        ((w.scan g).refusal?.map (Refusal.shift offset))
        ((w.scan g).items.map (Token.shift offset)) =
      ((w.nodes g).mapBoth (Node.shift offset) (Refusal.shift offset)).prepend [n] := by
  rw [Progress.run_behind _ _ hn _ (by simpa using hg), Progress.run_shift]
  rfl

/-! ### Filters joined by a connective -/

theorem wordKind_keyword (w : Whitelist) (c : Connective) :
    w.wordKind c.keyword.toList = c.kind := by
  have hword : Kind.ofKeyword? (String.ofList c.keyword.toList) = some c.kind := by
    cases c <;> decide
  rw [wordKind, hword]

/-- The tokens of a connective between two texts. -/
theorem scanFrom_connective (w : Whitelist) (start : Nat) (c : Connective) (g : String) :
    w.scanFrom start (' ' :: (c.keyword.toList ++ ' ' :: g.toList)) =
      ((w.scan g).mapBoth (Token.shift (start + c.keyword.utf8ByteSize + 2))
        (Refusal.shift (start + c.keyword.utf8ByteSize + 2))).prepend
        [⟨.single c.kind, start + 1, c.keyword⟩] := by
  have hfirst : w.scanFrom start (' ' :: (c.keyword.toList ++ ' ' :: g.toList)) =
      w.scanFrom (start + 1) (c.keyword.toList ++ ' ' :: g.toList) :=
    scanFrom_blanks w start [' '] _ (by decide)
  have hlast : w.scanFrom (start + 1 + c.keyword.utf8ByteSize) (' ' :: g.toList) =
      w.scanFrom (start + c.keyword.utf8ByteSize + 2) g.toList := by
    have hblank := scanFrom_blanks w (start + 1 + c.keyword.utf8ByteSize) [' '] g.toList
      (by decide)
    have hsum : start + 1 + c.keyword.utf8ByteSize + 1 = start + c.keyword.utf8ByteSize + 2 := by
      omega
    exact hblank.trans (congrArg (fun i => w.scanFrom i g.toList) hsum)
  have hword : w.scanFrom (start + 1) (c.keyword.toList ++ ' ' :: g.toList) =
      (w.scanFrom (start + 1 + c.keyword.utf8ByteSize) (' ' :: g.toList)).prepend
        [⟨.single (w.wordKind c.keyword.toList), start + 1, c.keyword⟩] := by
    cases c with
    | conjunction =>
        exact scanFrom_word w (start + 1) 'a' ['n', 'd'] (by decide) (by decide) (by decide) _
    | disjunction =>
        exact scanFrom_word w (start + 1) 'o' ['r'] (by decide) (by decide) (by decide) _
  rw [hfirst, hword, hlast, wordKind_keyword, scanFrom_eq_shift]

/-- The nodes of an accepted text, a connective and a further text. -/
theorem nodes_join (hf : ∃ pr, w.parse (some f) = .ok (some pr)) (c : Connective) {g : String}
    (hg : (w.scan g).items ≠ []) :
    w.nodes (f ++ " " ++ c.keyword ++ " " ++ g) =
      ((w.nodes g).mapBoth (Node.shift (f ++ " " ++ c.keyword ++ " ").utf8ByteSize)
        (Refusal.shift (f ++ " " ++ c.keyword ++ " ").utf8ByteSize)).prepend
        ((w.nodes f).items ++ [.logical (.single c.kind)]) := by
  obtain ⟨hclosed, -, -, ns, q, n, hread, hq, hnodes⟩ := exists_settled_of_accepts hf
  have hsize : (f ++ " " ++ c.keyword ++ " ").utf8ByteSize =
      0 + Text.byteLength f.toList + c.keyword.utf8ByteSize + 2 := by
    rw [Text.byteLength_toList]
    simp only [String.utf8ByteSize_append]
    have hspace : " ".utf8ByteSize = 1 := rfl
    omega
  rw [hsize]
  generalize hoffset : 0 + Text.byteLength f.toList + c.keyword.utf8ByteSize + 2 = offset
  have hchars : (f ++ " " ++ c.keyword ++ " " ++ g).toList =
      f.toList ++ ' ' :: (c.keyword.toList ++ ' ' :: g.toList) := by
    simp
  have hscan : w.scan (f ++ " " ++ c.keyword ++ " " ++ g) =
      ((w.scan g).mapBoth (Token.shift offset) (Refusal.shift offset)).prepend
        ((w.scan f).items ++ [⟨.single c.kind, 0 + Text.byteLength f.toList + 1, c.keyword⟩]) := by
    rw [scan, hchars, scanFrom_append (by decide) _ hclosed, scanFrom_connective, hoffset,
      Yield.prepend_prepend]
    rfl
  have htoken : Token.IsA ⟨.single c.kind, 0 + Text.byteLength f.toList + 1, c.keyword⟩ c.kind :=
    rfl
  have hfront := hread.append (hq.reads_connective (w := w) htoken)
  rw [nodes, hscan, Yield.items_prepend, Yield.refusal?_prepend, hfront.run_append,
    Yield.items_mapBoth, Yield.refusal?_mapBoth]
  have hback := nodes_eq_run_behind (w := w) (n := .logical (.single c.kind)) g offset
    (some ⟨.single c.kind, 0 + Text.byteLength f.toList + 1, c.keyword⟩) (fun _ => rfl) hg
  rw [hnodes]
  exact (congrArg (Yield.prepend (ns ++ [n])) hback).trans (Yield.prepend_prepend _ _ _)

/-! ### Filters in parentheses -/

/-- The tokens of a text in parentheses. -/
theorem scanFrom_parenthesised (start : Nat) (hclosed : (w.scan f).refusal? = none) :
    w.scanFrom start ('(' :: (f.toList ++ [')'])) =
      ⟨⟨.single .openParen, start, "("⟩ :: ((w.scan f).items.map (Token.shift (start + 1)) ++
        [⟨.single .closeParen, start + 1 + f.utf8ByteSize, ")"⟩]), none⟩ := by
  have hshift := scanFrom_eq_shift w (start + 1) f
  have hinside : (w.scanFrom (start + 1) f.toList).refusal? = none := by
    rw [hshift, Yield.refusal?_mapBoth, hclosed]
    rfl
  have hsize := Text.byteLength_toList f
  have hend : Text.skipBlanks [] = [] := rfl
  rw [scanFrom_punctuation w start (k := .openParen) (by simp),
    scanFrom_append (by decide) _ hinside,
    scanFrom_punctuation w _ (k := .closeParen) (by simp), scanFrom_of_blank w _ hend, hshift,
    hsize]
  rfl

/-- The tokens of an accepted text are read behind an opening parenthesis, up to the one that
closes it. -/
theorem reads_parenthesised (hf : ∃ pr, w.parse (some f) = .ok (some pr)) (offset : Nat)
    (open_ : Token) {close : Token} (hclose : close.IsA .closeParen) :
    Progress.Reads w ⟨.expecting 1, some (.openParen open_), some open_⟩
      ((w.scan f).items.map (Token.shift offset) ++ [close])
      (.openParen open_ :: (w.nodes f).items.map (Node.shift offset))
      ⟨.operand 0, some (.closeParen close), some close⟩ := by
  obtain ⟨-, hne, hkinds, ns, q, n, hread, hq, hnodes⟩ := exists_settled_of_accepts hf
  have hdeep : (⟨.expecting 1, none, none⟩ : Progress).Reads w (w.scan f).items ns (q.deepen 1) :=
    hread.deepen 1 hkinds
  have hsettled : (q.deepen 1).Settled 1 n :=
    ⟨by rw [Progress.deepen, hq.cursor_eq]; rfl, hq.pending?_eq, hq.isComplete, hq.not_canAdd⟩
  have hstart := Progress.Mirrors.of_empty (w := w) (.shifted offset) (.expecting 1)
  obtain ⟨ms, r, hread', hms, hr⟩ := hstart.reads (Token.forall₂_mirrors_shift _) hdeep
  have hinside := hread'.behind (some open_) (n := .openParen open_) (fun _ => rfl)
    (by simpa using hne)
  have hend := (hsettled.of_mirrors hr).reads_closeParen (w := w) hclose
  rw [hnodes, List.map_append, ← Node.map_shift_of_mirrors hms]
  exact hinside.append hend

/-- The nodes of an accepted text in parentheses. -/
theorem nodes_parenthesised (hf : ∃ pr, w.parse (some f) = .ok (some pr)) :
    w.nodes ("(" ++ f ++ ")") =
      ⟨.openParen ⟨.single .openParen, 0, "("⟩ :: ((w.nodes f).items.map (Node.shift 1) ++
        [.closeParen ⟨.single .closeParen, 1 + f.utf8ByteSize, ")"⟩]), none⟩ := by
  have hclosed := (exists_settled_of_accepts hf).1
  have hchars : ("(" ++ f ++ ")").toList = '(' :: (f.toList ++ [')']) := by simp
  have hscan := scanFrom_parenthesised 0 hclosed
  rw [Nat.zero_add] at hscan
  rw [nodes, scan, hchars, hscan]
  generalize hopen : (⟨.single .openParen, 0, "("⟩ : Token) = open_
  generalize hclose : (⟨.single .closeParen, 1 + f.utf8ByteSize, ")"⟩ : Token) = close
  have hfirst : Progress.initial.Reads w [open_] [] ⟨.expecting 1, some (.openParen open_),
      some open_⟩ :=
    Progress.expects_initial.reads (k := .openParen) (by subst hopen; rfl) (.openParen rfl)
  have hkind : close.IsA .closeParen := by
    subst hclose
    rfl
  have hrest := reads_parenthesised hf 1 open_ hkind
  have hrun := (hfirst.append hrest).run_append none []
  rw [List.append_nil, Progress.run, (Progress.settled_closeParen 0 close _).finish_eq rfl] at hrun
  exact hrun.trans (by simp [Yield.prepend])

/-- The nodes of the negation of an accepted text. -/
theorem nodes_negated (hf : ∃ pr, w.parse (some f) = .ok (some pr)) :
    w.nodes ("not (" ++ f ++ ")") =
      ⟨.logical (.single .negation) :: .openParen ⟨.single .openParen, 4, "("⟩ ::
        ((w.nodes f).items.map (Node.shift 5) ++
          [.closeParen ⟨.single .closeParen, 5 + f.utf8ByteSize, ")"⟩]), none⟩ := by
  have hclosed := (exists_settled_of_accepts hf).1
  have hchars : ("not (" ++ f ++ ")").toList =
      ['n', 'o', 't'] ++ ' ' :: ('(' :: (f.toList ++ [')'])) := by
    simp
  have hword : w.scanFrom 0 (['n', 'o', 't'] ++ ' ' :: ('(' :: (f.toList ++ [')']))) =
      (w.scanFrom 3 (' ' :: ('(' :: (f.toList ++ [')'])))).prepend
        [⟨.single .negation, 0, "not"⟩] :=
    scanFrom_word w 0 'n' ['o', 't'] (by decide) (by decide) (by decide) _
  have hblank : w.scanFrom 3 (' ' :: ('(' :: (f.toList ++ [')']))) =
      w.scanFrom 4 ('(' :: (f.toList ++ [')'])) :=
    scanFrom_blanks w 3 [' '] _ (by decide)
  rw [nodes, scan, hchars, hword, hblank, scanFrom_parenthesised 4 hclosed]
  generalize hnot : (⟨.single .negation, 0, "not"⟩ : Token) = not
  generalize hopen : (⟨.single .openParen, 4, "("⟩ : Token) = open_
  generalize hclose : (⟨.single .closeParen, 4 + 1 + f.utf8ByteSize, ")"⟩ : Token) = close
  have hfirst : Progress.initial.Reads w [not] [] ⟨.negated 0, some (.logical (.single .negation)),
      some not⟩ :=
    Progress.expects_initial.reads (k := .negation) (by subst hnot; rfl) (.negation rfl rfl)
  have hparen := Progress.reads_openParen_of_negation (w := w) 0 (some not) (t := open_)
    (by subst hopen; rfl)
  have hkind : close.IsA .closeParen := by
    subst hclose
    rfl
  have hrest := reads_parenthesised hf 5 open_ hkind
  have hrun := (hfirst.append (hparen.append hrest)).run_append none []
  rw [List.append_nil, Progress.run, (Progress.settled_closeParen 0 close _).finish_eq rfl] at hrun
  exact hrun.trans (by simp [Yield.prepend])

/-! ### Composed filters -/

/-- **Filters compose.**  Behind an accepted text and a connective a text that starts with a token
is read as it is read alone: the nodes of the first are followed by the connective and by what the
second gives, be it accepted or refused, with its positions moved.  In parentheses, and negated, an
accepted text is accepted, and its nodes stand between those of the parentheses. -/
theorem nodes_of_composed (hf : ∃ pr, w.parse (some f) = .ok (some pr)) :
    (∀ (c : Connective) (g : String), (w.scan g).items ≠ [] →
      w.nodes (f ++ " " ++ c.keyword ++ " " ++ g) =
        ((w.nodes g).mapBoth (Node.shift (f ++ " " ++ c.keyword ++ " ").utf8ByteSize)
          (Refusal.shift (f ++ " " ++ c.keyword ++ " ").utf8ByteSize)).prepend
          ((w.nodes f).items ++ [.logical (.single c.kind)])) ∧
    (w.nodes ("(" ++ f ++ ")") =
        ⟨.openParen ⟨.single .openParen, 0, "("⟩ :: ((w.nodes f).items.map (Node.shift 1) ++
          [.closeParen ⟨.single .closeParen, 1 + f.utf8ByteSize, ")"⟩]), none⟩ ∧
      ∃ pr, w.parse (some ("(" ++ f ++ ")")) = .ok (some pr)) ∧
    (w.nodes ("not (" ++ f ++ ")") =
        ⟨.logical (.single .negation) :: .openParen ⟨.single .openParen, 4, "("⟩ ::
          ((w.nodes f).items.map (Node.shift 5) ++
            [.closeParen ⟨.single .closeParen, 5 + f.utf8ByteSize, ")"⟩]), none⟩ ∧
      ∃ pr, w.parse (some ("not (" ++ f ++ ")")) = .ok (some pr)) := by
  have hgroup := nodes_parenthesised hf
  have hnegation := nodes_negated hf
  refine ⟨fun c g hg => nodes_join hf c hg, ⟨hgroup, ?_⟩, hnegation, ?_⟩
  · refine accepts_iff_refusal?_eq_none.2 ⟨?_, by rw [hgroup]⟩
    simp [Text.isBlankText, Text.isBlank, Text.inRanges, Text.blankRanges]
  · refine accepts_iff_refusal?_eq_none.2 ⟨?_, by rw [hnegation]⟩
    simp [Text.isBlankText, Text.isBlank, Text.inRanges, Text.blankRanges]

theorem nodes_of_composed_misplaced :
    (∃ pr, people.parse (some "active") = .ok (some pr)) ∧
      (people.scan "age gt 3 age").items ≠ [] ∧
      people.nodes "active and age gt 3 age" =
        ((people.nodes "age gt 3 age").mapBoth (Node.shift 11) (Refusal.shift 11)).prepend
          ((people.nodes "active").items ++ [.logical (.single .conjunction)]) ∧
      (people.nodes "active and age gt 3 age").refusal? = some (.misplaced "age" 20) ∧
      ∃ pr, people.parse (some "not (active)") = .ok (some pr) := by
  have hf : ∃ pr, people.parse (some "active") = .ok (some pr) :=
    accepts_iff_refusal?_eq_none.2 (by decide +kernel)
  have hg : (people.scan "age gt 3 age").items ≠ [] := by decide +kernel
  obtain ⟨hjoin, -, -, hnot⟩ := nodes_of_composed hf
  exact ⟨hf, hg, hjoin .conjunction "age gt 3 age" hg, by decide +kernel, hnot⟩

end Whitelist

end FilterQuery
