/-
**Completeness: a derivable sequence of tokens is read, and its output is that of the formula.**

Wherever an expression is expected the tokens of a derivation are read without a refusal, at any
depth of parentheses and behind any node that takes no token.  What is handed out and what is then
pending has the output of the formula, so a filter has one output however it is derived.

Main definitions:

* `Formula.pieces` — the output of a formula, piece by piece;
* `Node.TakesAll` — a node takes a sequence of tokens;
* `Progress.Expects`, `Progress.Settled` — an expression is expected, and an expression has ended.

Main results:

* `Formula.argument?_pieces` — the arguments in the output of a formula are its values;
* `Progress.Expects.exists_reads` — the tokens of a derivation are read;
* `Whitelist.parse_eq_ok_some_iff_derives` — a text has a predicate exactly if its tokens are a
  filter, and the predicate is the output of its formula.
-/

import FilterQuery.Proofs.Soundness

set_option relaxedAutoImplicit false
set_option autoImplicit false

namespace FilterQuery

/-! ### The output of a formula -/

@[simp] theorem KindSet.operatorSymbol?_single (k : Kind) :
    (single k).operatorSymbol? = k.operatorSymbol? := by
  rw [operatorSymbol?, only?_single, Option.bind_some]

@[simp] theorem KindSet.functionName?_single (k : Kind) :
    (single k).functionName? = k.functionName? := by
  rw [functionName?, only?_single, Option.bind_some]

/-- The output of a formula, piece by piece. -/
def Formula.pieces : Formula → List Piece
  | .flag f => [.text f.target]
  | .compared f op c => Comparison.scalarPieces f (.single op) c
  | .listed f cs =>
      [.text f.compared, .text "in", .text "("] ++ Comparison.listPieces cs ++ [.text ")"]
  | .call fn f v => Call.callPieces (fn.functionName?.getD "") f v
  | .group φ => [.text "("] ++ φ.pieces ++ [.text ")"]
  | .negation φ => [.text "!", .text "("] ++ φ.pieces ++ [.text ")"]
  | .join φ c ψ => φ.pieces ++ [.text c.symbol] ++ ψ.pieces

theorem Field.argument?_guard (f : Field) (ps : List Piece) :
    (f.guard ps).filterMap Piece.argument? = ps.filterMap Piece.argument? := by
  unfold guard
  split <;> simp [List.filterMap_cons]

theorem Constant.argument?_piece (c : Constant) : c.piece.argument? = c.value? := by
  cases c <;> rfl

theorem Comparison.argument?_scalarPieces (f : Field) (op : KindSet) (c : Constant) :
    (scalarPieces f op c).filterMap Piece.argument? = c.value?.toList := by
  cases c with
  | null => rfl
  | value v => exact Field.argument?_guard f _

theorem Call.argument?_callPieces (name : String) (f : Field) (v : Value) :
    (callPieces name f v).filterMap Piece.argument? = [v] :=
  Field.argument?_guard f _

theorem Comparison.argument?_listPieces (cs : List Constant) :
    (listPieces cs).filterMap Piece.argument? = cs.filterMap Constant.value? := by
  induction cs with
  | nil => rfl
  | cons c cs ih =>
      cases cs with
      | nil => simp [listPieces, List.filterMap_cons, Constant.argument?_piece]
      | cons d cs =>
          have hpieces : listPieces (c :: d :: cs) =
              c.piece :: .text "," :: listPieces (d :: cs) := rfl
          rw [hpieces, List.filterMap_cons, List.filterMap_cons_none rfl, ih,
            Constant.argument?_piece]
          rfl

/-- The arguments among the pieces of a formula are its values. -/
theorem Formula.argument?_pieces (φ : Formula) : φ.pieces.filterMap Piece.argument? = φ.args := by
  induction φ with
  | flag f => rfl
  | compared f op c => exact Comparison.argument?_scalarPieces f (.single op) c
  | listed f cs => simp [pieces, args, List.filterMap_cons, Comparison.argument?_listPieces]
  | call fn f v => exact Call.argument?_callPieces _ f v
  | group φ ih => simp [pieces, args, List.filterMap_cons, ih]
  | negation φ ih => simp [pieces, args, List.filterMap_cons, ih]
  | join φ c ψ ihφ ihψ => simp [pieces, args, List.filterMap_cons, ihφ, ihψ]

theorem Call.pieces_closed {k : Kind} (hk : k ∈ KindSet.stringFunction) (f : Field) (v : Value) :
    (Call.closed (.single k) f v).pieces = (Formula.call k f v).pieces := by
  have hname : k.functionName? = some (k.functionName?.getD "") := by
    revert hk
    cases k <;> decide
  have hset : (KindSet.single k).functionName? = some (k.functionName?.getD "") := by
    rw [KindSet.functionName?_single, ← hname]
  simp only [Call.pieces, Call.field?, Call.function?, Call.value?, Formula.pieces,
    Option.bind_some, hset]

theorem Node.pieces_connective (g : Connective) :
    (Node.logical (.single g.kind)).pieces = [.text g.symbol] := by
  cases g <;> rfl

/-! ### Nodes that take tokens -/

/-- The node takes the tokens one after the other. -/
inductive Node.TakesAll (w : Whitelist) : Node → List Token → Node → Prop where
  | nil (n : Node) : Node.TakesAll w n [] n
  | cons {n m l : Node} {t : Token} {ts : List Token} : n.canAdd t = true → n.add w t = .ok m →
      Node.TakesAll w m ts l → Node.TakesAll w n (t :: ts) l

theorem Comparison.Takes.takesAll {w : Whitelist} {c d : Comparison} {n : Node} {t : Token}
    {ts : List Token} (h : c.Takes w t d) (hrest : (Node.comparison d).TakesAll w ts n) :
    (Node.comparison c).TakesAll w (t :: ts) n := by
  refine .cons h.canAdd ?_ hrest
  simp [Node.add, add_of_takes h, Except.map]

theorem Call.Takes.takesAll {w : Whitelist} {c d : Call} {n : Node} {t : Token}
    {ts : List Token} (h : c.Takes w t d) (hrest : (Node.call d).TakesAll w ts n) :
    (Node.call c).TakesAll w (t :: ts) n := by
  refine .cons h.canAdd ?_ hrest
  simp [Node.add, add_of_takes h, Except.map]

/-- A list of constants takes the tokens that spell further constants. -/
theorem Field.Lists.takesAll {w : Whitelist} {f : Field} {cs : List Constant} {ts us : List Token}
    {n : Node} (h : f.Lists cs ts) (pre : List Constant)
    (hrest : (Node.comparison (.listed f (pre ++ cs) .separator)).TakesAll w us n) :
    (Node.comparison (.listed f pre .item)).TakesAll w (ts ++ us) n := by
  induction h generalizing pre with
  | single hc => exact (Comparison.Takes.item hc).takesAll hrest
  | @cons t comma c cs ts hc hcomma _ ih =>
      refine (Comparison.Takes.item hc).takesAll ?_
      refine (Comparison.Takes.comma hcomma).takesAll ?_
      exact ih (pre ++ [c]) (by simpa using hrest)

/-- The tokens that a pending node takes are read, and nothing is handed out. -/
theorem Node.TakesAll.exists_reads {w : Whitelist} {n m : Node} {ts : List Token} {p : Progress}
    (h : n.TakesAll w ts m) (hp : p.pending? = some n) :
    ∃ q, p.Reads w ts [] q ∧ q.cursor = p.cursor ∧ q.pending? = some m := by
  induction h generalizing p with
  | nil n => exact ⟨p, .nil p, rfl, hp⟩
  | @cons n m l t ts hcan hadd _ ih =>
      obtain ⟨q, hq, hcursor, hpend⟩ := ih (p := ⟨p.cursor, some m, some t⟩) rfl
      refine ⟨q, ?_, hcursor, hpend⟩
      have htaker : p.taker? t = some n := Option.filter_eq_some_iff.2 ⟨hp, hcan⟩
      have hacc : p.accept w t = .ok ⟨p.cursor, some m, some t⟩ := by
        simp [Progress.accept, htaker, hadd, Except.map]
      simpa [Progress.ended?_of_canAdd hp hcan] using Progress.Reads.cons hacc hq

theorem Comparison.exists_takes_of_names {w : Whitelist} {t : Token} {f : Field}
    (hf : w.Names t f) : ∃ c, Comparison.blank.Takes w t c ∧ c.IsBare f := by
  cases hb : f.type.isBoolean with
  | false => exact ⟨.named f, .named hf hb, .inr rfl⟩
  | true => exact ⟨.flag f, .flag hf hb, .inl rfl⟩

theorem Comparison.takesAll_compared {w : Whitelist} {b : Comparison} {f : Field} {op x : Token}
    {k : Kind} {c : Constant} (hb : b.IsBare f) (hop : op.IsA k) (hcmp : k ∈ KindSet.comparison)
    (hm : k ≠ .memberOf) (hsup : k ∈ f.supported)
    (hx : f.Admits (decide (k ∈ KindSet.equality)) x c) :
    (Node.comparison b).TakesAll w [op, x] (.comparison (.compared f (.single k) c)) := by
  rw [← KindSet.covers_single_eq] at hx
  refine (Comparison.Takes.operator hb hop hcmp hm hsup).takesAll ?_
  exact (Comparison.Takes.constant hx).takesAll (.nil _)

theorem Comparison.takesAll_listed {w : Whitelist} {b : Comparison} {f : Field}
    {op open_ close : Token} {cs : List Constant} {ts : List Token} (hb : b.IsBare f)
    (hop : op.IsA .memberOf) (hsup : .memberOf ∈ f.supported) (hopen : open_.IsA .openParen)
    (hl : f.Lists cs ts) (hclose : close.IsA .closeParen) :
    (Node.comparison b).TakesAll w (op :: open_ :: (ts ++ [close]))
      (.comparison (.listed f cs .closed)) := by
  refine (Comparison.Takes.membership hb hop hsup).takesAll ?_
  refine (Comparison.Takes.opening hopen).takesAll ?_
  refine hl.takesAll [] ?_
  exact (Comparison.Takes.close hclose).takesAll (.nil _)

theorem Call.takesAll_closed {w : Whitelist} {open_ t comma x close : Token} {f : Field} {k : Kind}
    {v : Value} (hopen : open_.IsA .openParen) (hf : w.Names t f) (hsup : k ∈ f.supported)
    (hcomma : comma.IsA .comma) (hx : f.Admits false x (.value v))
    (hclose : close.IsA .closeParen) :
    (Node.call (.named (.single k))).TakesAll w [open_, t, comma, x, close]
      (.call (.closed (.single k) f v)) := by
  refine (Call.Takes.opening hopen).takesAll ?_
  refine (Call.Takes.field hf (KindSet.covers_single.2 hsup)).takesAll ?_
  refine (Call.Takes.comma hcomma).takesAll ?_
  refine (Call.Takes.value hx).takesAll ?_
  exact (Call.Takes.close hclose).takesAll (.nil _)

/-! ### Before and after an expression -/

namespace Progress

/-- An expression is expected inside `depth` open parentheses, and no node is waiting for tokens. -/
structure Expects (p : Progress) (depth : Nat) : Prop where
  cursor_eq : p.cursor = .expecting depth
  not_canAdd : ∀ n ∈ p.pending?, ∀ t, n.canAdd t = false

/-- An expression has ended inside `depth` open parentheses: only an operator could extend it. -/
structure Settled (p : Progress) (depth : Nat) (n : Node) : Prop where
  cursor_eq : p.cursor = .operand depth
  pending?_eq : p.pending? = some n
  isComplete : n.isComplete = true
  not_canAdd : ∀ t, t.isOf .comparison = false → n.canAdd t = false

variable {w : Whitelist} {p q : Progress} {t : Token} {ts : List Token} {k : Kind} {depth : Nat}
  {n m : Node} {d : Cursor}

theorem Expects.reads (h : p.Expects depth) (ht : t.IsA k)
    (hs : (Cursor.expecting depth).Starts w t k d n) :
    p.Reads w [t] p.pending?.toList ⟨d, some n, some t⟩ := by
  have hnone : ∀ m ∈ p.pending?, m.canAdd t = false := fun m hm => h.not_canAdd m hm t
  rw [← h.cursor_eq] at hs
  rw [← ended?_of_not_canAdd hnone]
  exact .single ((accept_eq_ok_iff ht).2 (.started hnone hs))

theorem Settled.reads (h : p.Settled depth n) (ht : t.IsA k) (hk : k ∉ KindSet.comparison)
    (hs : (Cursor.operand depth).Starts w t k d m) :
    p.Reads w [t] [n] ⟨d, some m, some t⟩ := by
  have hnone : ∀ l ∈ p.pending?, l.canAdd t = false := by
    intro l hl
    rw [h.pending?_eq] at hl
    obtain rfl := Option.some.inj hl
    exact h.not_canAdd t (by simpa [Bool.eq_false_iff, ht.isOf_iff] using hk)
  have hread := Reads.single ((accept_eq_ok_iff ht).2 (.started hnone (h.cursor_eq ▸ hs)))
  rw [ended?_of_not_canAdd hnone, h.pending?_eq] at hread
  exact hread

theorem Expects.exists_reads_node (h : p.Expects depth) (ht : t.IsA k)
    (hs : (Cursor.expecting depth).Starts w t k (.operand depth) n) (hrest : n.TakesAll w ts m)
    (hdone : m.isComplete = true) (hcan : ∀ u, u.isOf .comparison = false → m.canAdd u = false) :
    ∃ q, p.Reads w (t :: ts) p.pending?.toList q ∧ q.Settled depth m := by
  obtain ⟨q, hq, hcursor, hpend⟩ := hrest.exists_reads (p := ⟨.operand depth, some n, some t⟩) rfl
  refine ⟨q, ?_, hcursor, hpend, hdone, hcan⟩
  simpa using (h.reads ht hs).append hq

theorem expects_openParen (depth : Nat) (t : Token) (last? : Option Token) :
    (⟨.expecting depth, some (.openParen t), last?⟩ : Progress).Expects depth :=
  ⟨rfl, by simp [Node.canAdd]⟩

theorem expects_logical (depth : Nat) (kinds : KindSet) (last? : Option Token) :
    (⟨.expecting depth, some (.logical kinds), last?⟩ : Progress).Expects depth :=
  ⟨rfl, by simp [Node.canAdd]⟩

theorem settled_closeParen (depth : Nat) (t : Token) (last? : Option Token) :
    (⟨.operand depth, some (.closeParen t), last?⟩ : Progress).Settled depth (.closeParen t) :=
  ⟨rfl, rfl, rfl, fun _ _ => rfl⟩

theorem Settled.reads_closeParen (h : p.Settled (depth + 1) n) (ht : t.IsA .closeParen) :
    p.Reads w [t] [n] ⟨.operand depth, some (.closeParen t), some t⟩ :=
  h.reads ht (by decide) (.closeParen rfl rfl (Nat.succ_ne_zero depth))

theorem Settled.reads_connective {g : Connective} (h : p.Settled depth n) (ht : t.IsA g.kind) :
    p.Reads w [t] [n] ⟨.expecting depth, some (.logical (.single g.kind)), some t⟩ := by
  refine h.reads ht ?_ (.connective rfl rfl)
  cases g <;> decide

/-- A parenthesis after a negation opens a level like any other. -/
theorem reads_openParen_of_negation (depth : Nat) (last? : Option Token) (ht : t.IsA .openParen) :
    Reads w ⟨.negated depth, some (.logical (.single .negation)), last?⟩ [t]
      [.logical (.single .negation)] ⟨.expecting (depth + 1), some (.openParen t), some t⟩ :=
  .single ((accept_eq_ok_iff ht).2 (.started (by simp [Node.canAdd]) (.openParen rfl)))

/-- Where an expression is expected the tokens of a derivation are read.  The nodes that are handed
out and the one that is then pending have the output of the formula. -/
theorem Expects.exists_reads {κ : Category} {φ : Formula} (hφ : w.Derives κ φ ts)
    (h : p.Expects depth) :
    ∃ ns q n, p.Reads w ts ns q ∧ q.Settled depth n ∧
      (ns ++ [n]).flatMap Node.pieces = p.pending?.toList.flatMap Node.pieces ++ φ.pieces := by
  -- The level and the node that is still pending change under parentheses and after connectives.
  induction hφ generalizing p depth with
  | @flag t f hf hb =>
      obtain ⟨q, hread, hq⟩ := h.exists_reads_node hf.1
        (.comparison rfl rfl (.flag hf hb)) (.nil _) rfl fun u hu => hu
      exact ⟨_, q, _, hread, hq, by simp [Node.pieces, Comparison.pieces, Formula.pieces]⟩
  | @compared t op x f k c hf hop hcmp hm hsup hx =>
      obtain ⟨b, hb, hbare⟩ := Comparison.exists_takes_of_names hf
      have htake := Comparison.takesAll_compared (w := w) hbare hop hcmp hm hsup hx
      obtain ⟨q, hread, hq⟩ := h.exists_reads_node hf.1 (.comparison rfl rfl hb) htake rfl
        fun u hu => rfl
      exact ⟨_, q, _, hread, hq, by simp [Node.pieces, Comparison.pieces, Formula.pieces]⟩
  | @listed t op open_ close f cs ts hf hop hsup hopen hl hclose =>
      obtain ⟨b, hb, hbare⟩ := Comparison.exists_takes_of_names hf
      have htake := Comparison.takesAll_listed (w := w) hbare hop hsup hopen hl hclose
      obtain ⟨q, hread, hq⟩ := h.exists_reads_node hf.1 (.comparison rfl rfl hb) htake rfl
        fun u hu => rfl
      exact ⟨_, q, _, hread, hq, by simp [Node.pieces, Comparison.pieces, Formula.pieces]⟩
  | @call fn open_ t comma x close f k v hfn hk hopen hf hsup hcomma hx hclose =>
      have htake := Call.takesAll_closed hopen hf hsup hcomma hx hclose
      obtain ⟨q, hread, hq⟩ := h.exists_reads_node hfn (.call rfl rfl hk (.name hfn hk)) htake rfl
        fun u hu => rfl
      exact ⟨_, q, _, hread, hq, by simp [Node.pieces, Call.pieces_closed hk]⟩
  | @group open_ close φ ts hopen _ hclose ih =>
      have hstart : p.Reads w [open_] p.pending?.toList
          ⟨.expecting (depth + 1), some (.openParen open_), some open_⟩ :=
        h.reads hopen (.openParen rfl)
      obtain ⟨ns, q, n, hread, hq, hpieces⟩ := ih (expects_openParen (depth + 1) open_ _)
      refine ⟨_, _, _, hstart.append (hread.append (hq.reads_closeParen hclose)),
        settled_closeParen depth close _, ?_⟩
      rw [List.flatMap_append, List.flatMap_append, hpieces]
      simp [Node.pieces, Formula.pieces]
  | @negation not open_ close φ ts hnot hopen _ hclose ih =>
      have hstart : p.Reads w [not] p.pending?.toList
          ⟨.negated depth, some (.logical (.single .negation)), some not⟩ :=
        h.reads hnot (.negation rfl rfl)
      have hparen := reads_openParen_of_negation (w := w) depth (some not) hopen
      obtain ⟨ns, q, n, hread, hq, hpieces⟩ := ih (expects_openParen (depth + 1) open_ _)
      refine ⟨_, _, _, hstart.append (hparen.append (hread.append (hq.reads_closeParen hclose))),
        settled_closeParen depth close _, ?_⟩
      rw [← List.append_assoc p.pending?.toList, List.flatMap_append, List.flatMap_append, hpieces]
      simp [Node.pieces, Formula.pieces, KindSet.logicalSymbol?, Kind.logicalSymbol?]
  | single _ ih => exact ih h
  | @join φ ψ ts us t g _ ht _ ihφ ihψ =>
      obtain ⟨ns, q, n, hread, hq, hpieces⟩ := ihφ h
      have hmid := hq.reads_connective (w := w) ht
      have hnext := expects_logical depth (.single g.kind) (some t)
      obtain ⟨ms, r, m, hread', hr, hpieces'⟩ := ihψ hnext
      refine ⟨_, r, m, hread.append (hmid.append hread'), hr, ?_⟩
      rw [← List.append_assoc ns, List.append_assoc (ns ++ [n]), List.flatMap_append, hpieces,
        hpieces']
      simp [Node.pieces_connective, Formula.pieces]

end Progress

/-! ### From derivations to predicates -/

theorem Progress.expects_initial : Progress.initial.Expects 0 :=
  ⟨rfl, by simp [Progress.initial]⟩

namespace Whitelist

variable {w : Whitelist} {φ : Formula} {ts : List Token}

theorem ne_nil_of_derives {κ : Category} (h : w.Derives κ φ ts) : ts ≠ [] := by
  induction h with
  | single _ ih => exact ih
  | _ => simp

/-- The tokens of a filter are read up to an end that passes the checks. -/
theorem exists_reads_of_derives (h : w.Derives .filter φ ts) :
    ∃ front q back, Progress.initial.Reads w ts front q ∧ q.finish.toExcept = .ok back ∧
      (front ++ back).flatMap Node.pieces = φ.pieces := by
  obtain ⟨ns, q, n, hread, hq, hpieces⟩ := Progress.expects_initial.exists_reads h
  refine ⟨ns, q, [n], hread, ?_, hpieces⟩
  obtain ⟨last, hlast⟩ := hread.exists_last? (ne_nil_of_derives h)
  rw [Progress.toExcept_finish_eq_ok_iff hlast, hq.cursor_eq, hq.pending?_eq]
  simp [Cursor.operand, hq.isComplete]

/-- A reading gives the same nodes each time. -/
theorem reads_unique {p q r : Progress} {ns ms : List Node} (h : p.Reads w ts ns q)
    (h' : p.Reads w ts ms r) : ns = ms ∧ q = r := by
  induction h generalizing ms with
  | nil p =>
      cases h'
      exact ⟨rfl, rfl⟩
  | cons hacc _ ih =>
      cases h' with
      | cons hacc' hread' =>
          obtain rfl := Except.ok.inj (hacc.symm.trans hacc')
          obtain ⟨rfl, rfl⟩ := ih hread'
          exact ⟨rfl, rfl⟩

/-- A text has a predicate exactly if its tokens are a filter.  The predicate is the output of the
formula. -/
theorem parse_eq_ok_some_iff_derives {text : String} {pr : Predicate} :
    w.parse (some text) = .ok (some pr) ↔ ∃ ts φ, (w.scan text).toExcept = .ok ts ∧
      w.Derives .filter φ ts ∧ pr = Predicate.empty.write φ.pieces := by
  rw [parse_eq_ok_some_iff]
  constructor
  · rintro ⟨hblank, ts, front, q, back, hscan, hread, hfin, rfl⟩
    have hts := ne_nil_of_not_isBlankText hblank hscan
    obtain ⟨φ, hφ⟩ := exists_derives_of_reads hts (exists_isA_of_mem_scan hscan) hread hfin
    obtain ⟨front', q', back', hread', hfin', hpieces⟩ := exists_reads_of_derives hφ
    obtain ⟨rfl, rfl⟩ := reads_unique hread hread'
    obtain rfl := Except.ok.inj (hfin.symm.trans hfin')
    exact ⟨ts, φ, hscan, hφ, by rw [Predicate.ofNodes, hpieces]⟩
  · rintro ⟨ts, φ, hscan, hφ, rfl⟩
    obtain ⟨front, q, back, hread, hfin, hpieces⟩ := exists_reads_of_derives hφ
    refine ⟨?_, ts, front, q, back, hscan, hread, hfin, by rw [Predicate.ofNodes, hpieces]⟩
    rw [← Bool.not_eq_true, ← toExcept_scan_eq_ok_nil_iff (w := w), hscan]
    intro h
    exact ne_nil_of_derives hφ (Except.ok.inj h)

theorem parse_eq_ok_none_iff {text : String} :
    w.parse (some text) = .ok none ↔ Text.isBlankText text = true := by
  constructor
  · intro h
    by_contra hblank
    simp only [parse, if_neg hblank] at h
    obtain ⟨ns, -, hns⟩ := map_eq_ok_iff.1 h
    simp at hns
  · exact parse_of_blank w

/-- **A text is accepted exactly if its tokens are a filter of the grammar.**  It has no predicate,
and is not refused either, exactly if it has no token, which is so exactly if it is blank. -/
theorem accepts_iff_derives (w : Whitelist) (text : String) :
    ((∃ pr, w.parse (some text) = .ok (some pr)) ↔
        ∃ ts φ, (w.scan text).toExcept = .ok ts ∧ w.Derives .filter φ ts) ∧
      (w.parse (some text) = .ok none ↔ (w.scan text).toExcept = .ok []) ∧
      (w.parse (some text) = .ok none ↔ Text.isBlankText text = true) := by
  refine ⟨?_, ?_, parse_eq_ok_none_iff⟩
  · constructor
    · rintro ⟨pr, hpr⟩
      obtain ⟨ts, φ, hscan, hφ, -⟩ := parse_eq_ok_some_iff_derives.1 hpr
      exact ⟨ts, φ, hscan, hφ⟩
    · rintro ⟨ts, φ, hscan, hφ⟩
      exact ⟨_, parse_eq_ok_some_iff_derives.2 ⟨ts, φ, hscan, hφ, rfl⟩⟩
  · rw [parse_eq_ok_none_iff, toExcept_scan_eq_ok_nil_iff]

/-- A string field that is renamed, guarded and compared without case, a number and a boolean. -/
def people : Whitelist where
  fields :=
    [{ Field.ofType "name" .string with
        renamed? := some "Person.Name"
        ignoreCase := true
        checkNotNull := true
        supported := KindSet.comparison.union .stringFunction },
      Field.ofType "age" .long, Field.ofType "active" .bool]
  nodup_keys := by decide +kernel

example : people.parse (some "(active or age in (1, null)) and not (contains(name, 'x'))") =
    .ok (some ⟨"(active || age in (@0, null)) && " ++
      "!((Person.Name != null && Person.Name.ToUpper().Contains(@1)))",
      [.long (some 1), .string (some "X")]⟩) := by
  decide +kernel

end Whitelist

end FilterQuery
