/-
**Soundness: what is read without a refusal is derivable.**

The reading is flat: it knows the number of open parentheses and the node that is being read, while
derivations are nested.  The bridge is what the tokens read so far mean in each state.  Behind a
pending comparison or call stand the tokens that spell it, and before it stand tokens that lead up
to an expression: at each level of parentheses some expressions with connectives, then an opening.
A closing parenthesis takes the innermost level and makes an expression of it.

Main definitions:

* `Comparison.Spells`, `Call.Spells` — the tokens from which a node has been read;
* `Whitelist.Leads` — tokens after which an expression is expected inside open parentheses;
* `Progress.Spells` — the tokens from which a state has been reached.

Main results:

* `Comparison.Spells.step`, `Call.Spells.step`, `Progress.Spells.step` — a step of a node or of the
  reading keeps the meaning;
* `Whitelist.Leads.close` — a closing parenthesis makes an expression of the innermost level;
* `Progress.Spells.reads` — a whole reading keeps the meaning;
* `Whitelist.exists_derives_of_reads` — what is read up to an end that passes the checks is a
  filter.
-/

import FilterQuery.Proofs.Reading

set_option relaxedAutoImplicit false
set_option autoImplicit false

namespace FilterQuery

/-! ### The tokens of a node -/

theorem KindSet.covers_single_eq (s : KindSet) (k : Kind) :
    s.covers (.single k) = decide (k ∈ s) := by
  rw [Bool.eq_iff_iff, covers_single, decide_eq_true_eq]

/-- A list goes on with a comma and a further constant. -/
theorem Field.Lists.snoc {f : Field} {cs : List Constant} {ts : List Token} {comma t : Token}
    {c : Constant} (h : f.Lists cs ts) (hcomma : comma.IsA .comma) (hc : f.Admits true t c) :
    f.Lists (cs ++ [c]) (ts ++ [comma] ++ [t]) := by
  induction h with
  | single hd => exact .cons hd hcomma (.single hc)
  | cons hd hcomma' _ ih => exact .cons hd hcomma' ih

namespace Comparison

/-- The tokens from which a comparison has been read. -/
inductive Spells (w : Whitelist) : Comparison → List Token → Prop where
  | blank : Spells w .blank []
  | flag {t : Token} {f : Field} : w.Names t f → f.type.isBoolean = true → Spells w (.flag f) [t]
  | named {t : Token} {f : Field} : w.Names t f → f.type.isBoolean = false →
      Spells w (.named f) [t]
  | operated {t op : Token} {f : Field} {k : Kind} : w.Names t f → op.IsA k →
      k ∈ KindSet.comparison → k ≠ .memberOf → k ∈ f.supported →
      Spells w (.operated f (.single k)) [t, op]
  | compared {t op x : Token} {f : Field} {k : Kind} {c : Constant} : w.Names t f → op.IsA k →
      k ∈ KindSet.comparison → k ≠ .memberOf → k ∈ f.supported →
      f.Admits (decide (k ∈ KindSet.equality)) x c →
      Spells w (.compared f (.single k) c) [t, op, x]
  | opening {t op : Token} {f : Field} : w.Names t f → op.IsA .memberOf → .memberOf ∈ f.supported →
      Spells w (.listed f [] .opening) [t, op]
  | first {t op open_ : Token} {f : Field} : w.Names t f → op.IsA .memberOf →
      .memberOf ∈ f.supported → open_.IsA .openParen →
      Spells w (.listed f [] .item) [t, op, open_]
  | separator {t op open_ : Token} {f : Field} {cs : List Constant} {ts : List Token} :
      w.Names t f → op.IsA .memberOf → .memberOf ∈ f.supported → open_.IsA .openParen →
      f.Lists cs ts → Spells w (.listed f cs .separator) (t :: op :: open_ :: ts)
  | item {t op open_ comma : Token} {f : Field} {cs : List Constant} {ts : List Token} :
      w.Names t f → op.IsA .memberOf → .memberOf ∈ f.supported → open_.IsA .openParen →
      f.Lists cs ts → comma.IsA .comma →
      Spells w (.listed f cs .item) (t :: op :: open_ :: (ts ++ [comma]))
  | closed {t op open_ close : Token} {f : Field} {cs : List Constant} {ts : List Token} :
      w.Names t f → op.IsA .memberOf → .memberOf ∈ f.supported → open_.IsA .openParen →
      f.Lists cs ts → close.IsA .closeParen →
      Spells w (.listed f cs .closed) (t :: op :: open_ :: (ts ++ [close]))

variable {w : Whitelist} {c d : Comparison} {ts : List Token} {t : Token} {f : Field}

/-- A bare field is spelled by one token that names it. -/
theorem Spells.exists_names (h : c.Spells w ts) (hc : c.IsBare f) :
    ∃ t, ts = [t] ∧ w.Names t f := by
  rcases hc with rfl | rfl
  · cases h with
    | flag hf _ => exact ⟨_, rfl, hf⟩
  · cases h with
    | named hf _ => exact ⟨_, rfl, hf⟩

/-- A step of a comparison adds its token to those that spell the comparison. -/
theorem Spells.step (h : c.Spells w ts) (hstep : c.Takes w t d) : d.Spells w (ts ++ [t]) := by
  cases hstep with
  | flag hf hb =>
      cases h
      exact .flag hf hb
  | named hf hb =>
      cases h
      exact .named hf hb
  | operator hc ht hcmp hm hsup =>
      obtain ⟨u, rfl, hu⟩ := h.exists_names hc
      exact .operated hu ht hcmp hm hsup
  | membership hc ht hsup =>
      obtain ⟨u, rfl, hu⟩ := h.exists_names hc
      exact .opening hu ht hsup
  | constant hx =>
      cases h with
      | operated hf hop hcmp hm hsup =>
          rw [KindSet.covers_single_eq] at hx
          exact .compared hf hop hcmp hm hsup hx
  | opening ht =>
      cases h with
      | opening hf hop hsup => exact .first hf hop hsup ht
  | item hx =>
      cases h with
      | first hf hop hsup hopen => exact .separator hf hop hsup hopen (.single hx)
      | item hf hop hsup hopen hl hcomma =>
          exact .separator hf hop hsup hopen (hl.snoc hcomma hx)
  | comma ht =>
      cases h with
      | separator hf hop hsup hopen hl => exact .item hf hop hsup hopen hl ht
  | close ht =>
      cases h with
      | separator hf hop hsup hopen hl => exact .closed hf hop hsup hopen hl ht

/-- The tokens of a complete comparison are an expression. -/
theorem Spells.exists_derives (h : c.Spells w ts) (hc : c.isComplete = true) :
    ∃ φ, w.Derives .expression φ ts := by
  cases h with
  | flag hf hb => exact ⟨_, .flag hf hb⟩
  | compared hf hop hcmp hm hsup hx => exact ⟨_, .compared hf hop hcmp hm hsup hx⟩
  | closed hf hop hsup hopen hl hclose => exact ⟨_, .listed hf hop hsup hopen hl hclose⟩
  | _ => simp [isComplete] at hc

/-- Only a complete comparison refuses to look at a token. -/
theorem isComplete_of_not_canAdd (h : c.canAdd t = false) : c.isComplete = true := by
  cases c with
  | listed f cs stage => cases stage <;> simp_all [canAdd, isComplete]
  | _ => simp_all [canAdd, isComplete]

end Comparison

namespace Call

/-- The tokens from which a call has been read. -/
inductive Spells (w : Whitelist) : Call → List Token → Prop where
  | blank : Spells w .blank []
  | named {fn : Token} {k : Kind} : fn.IsA k → k ∈ KindSet.stringFunction →
      Spells w (.named (.single k)) [fn]
  | opened {fn open_ : Token} {k : Kind} : fn.IsA k → k ∈ KindSet.stringFunction →
      open_.IsA .openParen → Spells w (.opened (.single k)) [fn, open_]
  | fielded {fn open_ t : Token} {k : Kind} {f : Field} : fn.IsA k → k ∈ KindSet.stringFunction →
      open_.IsA .openParen → w.Names t f → k ∈ f.supported →
      Spells w (.fielded (.single k) f) [fn, open_, t]
  | separated {fn open_ t comma : Token} {k : Kind} {f : Field} : fn.IsA k →
      k ∈ KindSet.stringFunction → open_.IsA .openParen → w.Names t f → k ∈ f.supported →
      comma.IsA .comma → Spells w (.separated (.single k) f) [fn, open_, t, comma]
  | valued {fn open_ t comma x : Token} {k : Kind} {f : Field} {v : Value} : fn.IsA k →
      k ∈ KindSet.stringFunction → open_.IsA .openParen → w.Names t f → k ∈ f.supported →
      comma.IsA .comma → f.Admits false x (.value v) →
      Spells w (.valued (.single k) f v) [fn, open_, t, comma, x]
  | closed {fn open_ t comma x close : Token} {k : Kind} {f : Field} {v : Value} : fn.IsA k →
      k ∈ KindSet.stringFunction → open_.IsA .openParen → w.Names t f → k ∈ f.supported →
      comma.IsA .comma → f.Admits false x (.value v) → close.IsA .closeParen →
      Spells w (.closed (.single k) f v) [fn, open_, t, comma, x, close]

variable {w : Whitelist} {c d : Call} {ts : List Token} {t : Token}

/-- A step of a call adds its token to those that spell the call. -/
theorem Spells.step (h : c.Spells w ts) (hstep : c.Takes w t d) : d.Spells w (ts ++ [t]) := by
  cases hstep with
  | name ht hk =>
      cases h
      exact .named ht hk
  | opening ht =>
      cases h with
      | named hfn hk => exact .opened hfn hk ht
  | field hf hsup =>
      cases h with
      | opened hfn hk hopen =>
          exact .fielded hfn hk hopen hf (KindSet.covers_single.1 hsup)
  | comma ht =>
      cases h with
      | fielded hfn hk hopen hf hsup => exact .separated hfn hk hopen hf hsup ht
  | value hx =>
      cases h with
      | separated hfn hk hopen hf hsup hcomma => exact .valued hfn hk hopen hf hsup hcomma hx
  | close ht =>
      cases h with
      | valued hfn hk hopen hf hsup hcomma hx => exact .closed hfn hk hopen hf hsup hcomma hx ht

/-- The tokens of a closed call are an expression. -/
theorem Spells.exists_derives (h : c.Spells w ts) (hc : c.isComplete = true) :
    ∃ φ, w.Derives .expression φ ts := by
  cases h with
  | closed hfn hk hopen hf hsup hcomma hx hclose =>
      exact ⟨_, .call hfn hk hopen hf hsup hcomma hx hclose⟩
  | _ => simp [isComplete] at hc

end Call

/-- A node that cannot take a token is complete. -/
theorem Node.isComplete_of_not_canAdd {n : Node} {t : Token} (h : n.canAdd t = false) :
    n.isComplete = true := by
  cases n with
  | comparison c => exact Comparison.isComplete_of_not_canAdd h
  | call c => simpa [canAdd, Call.canAdd, isComplete] using h
  | _ => rfl

/-! ### The tokens before an expression -/

/-- The tokens lead up to an expression inside `depth` open parentheses. -/
inductive Whitelist.Leads (w : Whitelist) : Nat → List Token → Prop where
  | start : Whitelist.Leads w 0 []
  | join {depth : Nat} {ts us : List Token} {t : Token} {φ : Formula} {g : Connective} :
      Whitelist.Leads w depth ts → w.Derives .expression φ us → t.IsA g.kind →
      Whitelist.Leads w depth (ts ++ us ++ [t])
  | group {depth : Nat} {ts : List Token} {open_ : Token} : Whitelist.Leads w depth ts →
      open_.IsA .openParen → Whitelist.Leads w (depth + 1) (ts ++ [open_])
  | negation {depth : Nat} {ts : List Token} {not open_ : Token} : Whitelist.Leads w depth ts →
      not.IsA .negation → open_.IsA .openParen →
      Whitelist.Leads w (depth + 1) (ts ++ [not] ++ [open_])

namespace Whitelist

variable {w : Whitelist} {depth : Nat} {ts us : List Token} {φ : Formula}

/-- A closing parenthesis makes an expression of the innermost level of parentheses. -/
theorem Leads.close {close : Token} (h : w.Leads (depth + 1) ts) (hφ : w.Derives .filter φ us)
    (hclose : close.IsA .closeParen) :
    ∃ vs xs ψ, ts ++ us ++ [close] = vs ++ xs ∧ w.Leads depth vs ∧ w.Derives .expression ψ xs := by
  generalize hd : depth + 1 = d at h
  -- along the connectives of the level, whose expressions join the filter one by one
  induction h generalizing us φ with
  | start => simp at hd
  | @join _ vs xs t ψ g _ hψ ht ih =>
      obtain ⟨vs', xs', χ, heq, hlead, hχ⟩ := ih (.join hψ ht hφ) hd
      exact ⟨vs', xs', χ, by simpa using heq, hlead, hχ⟩
  | @group _ vs open_ hlead hopen _ =>
      obtain rfl := Nat.succ.inj hd
      exact ⟨vs, open_ :: (us ++ [close]), _, by simp, hlead, .group hopen hφ hclose⟩
  | @negation _ vs not open_ hlead hnot hopen _ =>
      obtain rfl := Nat.succ.inj hd
      exact ⟨vs, not :: open_ :: (us ++ [close]), _, by simp, hlead,
        .negation hnot hopen hφ hclose⟩

/-- Outside all parentheses the tokens before a filter make a filter with it. -/
theorem Leads.exists_derives (h : w.Leads 0 ts) (hφ : w.Derives .filter φ us) :
    ∃ ψ, w.Derives .filter ψ (ts ++ us) := by
  generalize hd : 0 = d at h
  induction h generalizing us φ with
  | start => exact ⟨φ, hφ⟩
  | join _ hψ ht ih =>
      obtain ⟨χ, hχ⟩ := ih (.join hψ ht hφ) hd
      exact ⟨χ, by simpa using hχ⟩
  | group _ _ _ => simp at hd
  | negation _ _ _ _ => simp at hd

end Whitelist

/-! ### The tokens of a state -/

/-- Where an expression is expected, the cursor inside `depth` open parentheses. -/
def Cursor.expecting (depth : Nat) : Cursor :=
  ⟨true, false, depth, false⟩

/-- After a negation, the cursor inside `depth` open parentheses. -/
def Cursor.negated (depth : Nat) : Cursor :=
  ⟨true, false, depth, true⟩

/-- Inside or after an expression, the cursor inside `depth` open parentheses. -/
def Cursor.operand (depth : Nat) : Cursor :=
  ⟨false, true, depth, false⟩

/-- The tokens from which a state of the reading has been reached. -/
inductive Progress.Spells (w : Whitelist) : Progress → List Token → Prop where
  /-- An expression is expected. -/
  | expecting {depth : Nat} {pending? : Option Node} {last? : Option Token} {ts : List Token} :
      (∀ n ∈ pending?, ∀ t, n.canAdd t = false) → w.Leads depth ts →
      Progress.Spells w ⟨.expecting depth, pending?, last?⟩ ts
  /-- The last token is a negation. -/
  | negated {depth : Nat} {kinds : KindSet} {last? : Option Token} {ts : List Token} {t : Token} :
      w.Leads depth ts → t.IsA .negation →
      Progress.Spells w ⟨.negated depth, some (.logical kinds), last?⟩ (ts ++ [t])
  /-- A comparison is being read. -/
  | comparison {depth : Nat} {c : Comparison} {last? : Option Token} {ts us : List Token} :
      w.Leads depth ts → c.Spells w us →
      Progress.Spells w ⟨.operand depth, some (.comparison c), last?⟩ (ts ++ us)
  /-- A call is being read. -/
  | call {depth : Nat} {c : Call} {last? : Option Token} {ts us : List Token} :
      w.Leads depth ts → c.Spells w us →
      Progress.Spells w ⟨.operand depth, some (.call c), last?⟩ (ts ++ us)
  /-- The last token closes a parenthesis. -/
  | closed {depth : Nat} {close : Token} {last? : Option Token} {ts us : List Token}
      {φ : Formula} : w.Leads depth ts → w.Derives .expression φ us →
      Progress.Spells w ⟨.operand depth, some (.closeParen close), last?⟩ (ts ++ us)

namespace Progress

variable {w : Whitelist} {p q : Progress} {ts us : List Token} {t : Token} {k : Kind}
  {ns : List Node}

/-- A token that starts a node where an expression is expected. -/
theorem Spells.of_starts_expecting {depth : Nat} {d : Cursor} {n : Node} (hlead : w.Leads depth ts)
    (ht : t.IsA k) (h : (Cursor.expecting depth).Starts w t k d n) :
    Spells w ⟨d, some n, some t⟩ (ts ++ [t]) := by
  cases h with
  | comparison _ _ hn => exact .comparison hlead (Comparison.Spells.blank.step hn)
  | call _ _ _ hn => exact .call hlead (Call.Spells.blank.step hn)
  | openParen _ => exact .expecting (by simp [Node.canAdd]) (.group hlead ht)
  | closeParen _ hopen _ => simp [Cursor.expecting] at hopen
  | connective _ hjoin => simp [Cursor.expecting] at hjoin
  | negation _ _ => exact .negated hlead ht

/-- A token that starts a node after an expression. -/
theorem Spells.of_starts_operand {depth : Nat} {d : Cursor} {n : Node} {φ : Formula}
    (hlead : w.Leads depth ts) (hφ : w.Derives .expression φ us) (ht : t.IsA k)
    (h : (Cursor.operand depth).Starts w t k d n) :
    Spells w ⟨d, some n, some t⟩ (ts ++ us ++ [t]) := by
  cases h with
  | comparison _ hopen _ => simp [Cursor.operand] at hopen
  | call _ hopen _ _ => simp [Cursor.operand] at hopen
  | openParen hopen => simp [Cursor.operand] at hopen
  | closeParen _ _ hd =>
      obtain ⟨e, rfl⟩ := Nat.exists_eq_succ_of_ne_zero hd
      obtain ⟨vs, xs, ψ, heq, hlead', hψ⟩ := hlead.close (.single hφ) ht
      rw [heq]
      exact .closed hlead' hψ
  | connective _ _ => exact .expecting (by simp [Node.canAdd]) (.join hlead hφ ht)
  | negation _ hopen => simp [Cursor.operand] at hopen

/-- An accepted token joins those from which the state has been reached. -/
theorem Spells.step (h : p.Spells w ts) (ht : t.IsA k) (hacc : p.Accepts w t k q) :
    q.Spells w (ts ++ [t]) := by
  cases h with
  | expecting hnone hlead =>
      cases hacc with
      | taken hpend hcan _ => simp [hnone _ hpend] at hcan
      | started _ hs => exact .of_starts_expecting hlead ht hs
  | negated hlead hnot =>
      cases hacc with
      | taken hpend hcan _ =>
          obtain rfl := Option.some.inj hpend
          simp [Node.canAdd] at hcan
      | started _ hs =>
          cases hs with
          | openParen _ => exact .expecting (by simp [Node.canAdd]) (.negation hlead hnot ht)
          | comparison hn _ _ => simp [Cursor.negated] at hn
          | call hn _ _ _ => simp [Cursor.negated] at hn
          | closeParen hn _ _ => simp [Cursor.negated] at hn
          | connective hn _ => simp [Cursor.negated] at hn
          | negation hn _ => simp [Cursor.negated] at hn
  | @comparison depth c last? ts us hlead hc =>
      cases hacc with
      | taken hpend _ hadd =>
          obtain rfl := Option.some.inj hpend
          obtain ⟨d, hd, rfl⟩ := map_eq_ok_iff.1 hadd
          rw [List.append_assoc]
          exact .comparison hlead (hc.step (Comparison.takes_of_add ht hd))
      | started hcan hs =>
          have hdone := Comparison.isComplete_of_not_canAdd (hcan _ rfl)
          obtain ⟨φ, hφ⟩ := hc.exists_derives hdone
          exact .of_starts_operand hlead hφ ht hs
  | @call depth c last? ts us hlead hc =>
      cases hacc with
      | taken hpend _ hadd =>
          obtain rfl := Option.some.inj hpend
          obtain ⟨d, hd, rfl⟩ := map_eq_ok_iff.1 hadd
          rw [List.append_assoc]
          exact .call hlead (hc.step (Call.takes_of_add ht hd))
      | started hcan hs =>
          have hdone : c.isComplete = true := by
            simpa [Node.canAdd, Call.canAdd] using hcan _ rfl
          obtain ⟨φ, hφ⟩ := hc.exists_derives hdone
          exact .of_starts_operand hlead hφ ht hs
  | closed hlead hφ =>
      cases hacc with
      | taken hpend hcan _ =>
          obtain rfl := Option.some.inj hpend
          simp [Node.canAdd] at hcan
      | started _ hs => exact .of_starts_operand hlead hφ ht hs

/-- A whole reading keeps the meaning of the state. -/
theorem Spells.reads (h : p.Spells w us) (hk : ∀ t ∈ ts, ∃ k, t.IsA k) (hread : p.Reads w ts ns q) :
    q.Spells w (us ++ ts) := by
  induction hread generalizing us with
  | nil p => simpa using h
  | @cons p q r t ts ns hacc _ ih =>
      obtain ⟨k, ht⟩ := hk t (by simp)
      have hq := h.step ht ((accept_eq_ok_iff ht).1 hacc)
      simpa using ih hq fun u hu => hk u (by simp [hu])

/-- The state after tokens that are read from the start has been reached from them. -/
theorem Reads.spells (hread : initial.Reads w ts ns q) (hk : ∀ t ∈ ts, ∃ k, t.IsA k) :
    q.Spells w ts := by
  have hstart : initial.Spells w [] := .expecting (by simp) .start
  simpa using hstart.reads hk hread

/-- At an end that passes the checks the tokens are a filter. -/
theorem Spells.exists_derives {back : List Node} {last : Token} (h : p.Spells w ts)
    (hlast : p.last? = some last) (hfin : p.finish.toExcept = .ok back) :
    ∃ φ, w.Derives .filter φ ts := by
  obtain ⟨hdepth, hjoin, hdone, -⟩ := (toExcept_finish_eq_ok_iff hlast).1 hfin
  cases h with
  | expecting _ _ => simp [Cursor.expecting] at hjoin
  | negated _ _ => simp [Cursor.negated] at hjoin
  | comparison hlead hc =>
      obtain rfl : _ = 0 := hdepth
      obtain ⟨φ, hφ⟩ := hc.exists_derives (hdone _ rfl)
      exact hlead.exists_derives (.single hφ)
  | call hlead hc =>
      obtain rfl : _ = 0 := hdepth
      obtain ⟨φ, hφ⟩ := hc.exists_derives (hdone _ rfl)
      exact hlead.exists_derives (.single hφ)
  | closed hlead hφ =>
      obtain rfl : _ = 0 := hdepth
      exact hlead.exists_derives (.single hφ)

end Progress

/-- Tokens that are read up to an end that passes the checks are a filter. -/
theorem Whitelist.exists_derives_of_reads {w : Whitelist} {ts : List Token} {front back : List Node}
    {q : Progress} (hts : ts ≠ []) (hk : ∀ t ∈ ts, ∃ k, t.IsA k)
    (hread : Progress.initial.Reads w ts front q) (hfin : q.finish.toExcept = .ok back) :
    ∃ φ, w.Derives .filter φ ts := by
  obtain ⟨last, hlast⟩ := hread.exists_last? hts
  exact (hread.spells hk).exists_derives hlast hfin

end FilterQuery
