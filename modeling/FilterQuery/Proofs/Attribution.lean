/-
**Refusals name the source text that causes them.**

A refusal carries a text and a position, or the name of a field.  What these are is described here
by the tokens of the text alone, for each cause.  A token is refused behind tokens that are read,
and what it is refused for depends on where an expression has been left: behind a field, behind an
operator, inside a list or inside a call.  At the end of a text the last token stands for what is
missing, and a literal without a closing quote is known by the position of its opening one.

Main definitions:

* `Token.nesting` — how many parentheses some tokens leave open;
* `Whitelist.Awaits` — tokens that end where an expression needs a constant of a field;
* `Whitelist.Refuses` — the causes for which a token is refused behind others;
* `Whitelist.Blames` — the causes for which a text is refused.

Main results:

* `Comparison.Spells.refuses`, `Call.Spells.refuses`, `Progress.Spells.refuses` — what is refused by
  a node or by a state has one of the causes;
* `Progress.Spells.nesting_eq` — the depth of a state is the nesting of its tokens;
* `Whitelist.blames_of_parse_eq_error` — **every refusal of a filter has the cause that it names**.
-/

import FilterQuery.Proofs.FirstRefusal

set_option relaxedAutoImplicit false
set_option autoImplicit false

namespace FilterQuery

/-! ### Open parentheses -/

/-- How many more parentheses the tokens open than they close. -/
def Token.nesting (ts : List Token) : Int :=
  ts.countP (fun t => t.is .openParen) - ts.countP (fun t => t.is .closeParen)

namespace Token

variable {t : Token} {k : Kind} {ts us : List Token}

@[simp] theorem nesting_append (ts us : List Token) :
    nesting (ts ++ us) = nesting ts + nesting us := by
  simp only [nesting, List.countP_append]
  omega

theorem nesting_cons (t : Token) (ts : List Token) :
    nesting (t :: ts) = nesting [t] + nesting ts :=
  nesting_append [t] ts

/-- One token opens a parenthesis, closes one, or does neither. -/
theorem IsA.nesting_eq (h : t.IsA k) :
    nesting [t] = if k = .openParen then 1 else if k = .closeParen then -1 else 0 := by
  have hopen : t.is .openParen = decide (k = .openParen) := by
    rw [Bool.eq_iff_iff, h.is_iff, decide_eq_true_eq, eq_comm]
  have hclose : t.is .closeParen = decide (k = .closeParen) := by
    rw [Bool.eq_iff_iff, h.is_iff, decide_eq_true_eq, eq_comm]
  simp only [nesting, List.countP_singleton, hopen, hclose, decide_eq_true_eq]
  cases k <;> decide

theorem IsA.nesting_eq_zero (h : t.IsA k) (hopen : k ≠ .openParen) (hclose : k ≠ .closeParen) :
    nesting [t] = 0 := by
  rw [h.nesting_eq, if_neg hopen, if_neg hclose]

theorem IsA.nesting_eq_zero_of_mem {s : KindSet} (h : t.IsA k) (hk : k ∈ s)
    (hopen : Kind.openParen ∉ s) (hclose : Kind.closeParen ∉ s) : nesting [t] = 0 :=
  h.nesting_eq_zero (fun heq => hopen (heq ▸ hk)) (fun heq => hclose (heq ▸ hk))

/-- What stands between an opening and a closing parenthesis decides the nesting. -/
theorem nesting_enclosed {open_ close : Token} (hopen : open_.IsA .openParen)
    (hclose : close.IsA .closeParen) (ts : List Token) :
    nesting (open_ :: (ts ++ [close])) = nesting ts := by
  rw [nesting_cons, nesting_append, hopen.nesting_eq, hclose.nesting_eq, if_pos rfl,
    if_neg (by decide), if_pos rfl]
  omega

end Token

theorem Whitelist.Names.nesting_eq_zero {w : Whitelist} {t : Token} {f : Field}
    (h : w.Names t f) : Token.nesting [t] = 0 :=
  h.1.nesting_eq_zero (by decide) (by decide)

theorem Field.Admits.nesting_eq_zero {f : Field} {allowNull : Bool} {t : Token} {c : Constant}
    (h : f.Admits allowNull t c) : Token.nesting [t] = 0 := by
  obtain ⟨k, ht, hk⟩ := h.exists_isA
  exact ht.nesting_eq_zero_of_mem hk (by decide) (by decide)

theorem Field.Lists.nesting_eq_zero {f : Field} {cs : List Constant} {ts : List Token}
    (h : f.Lists cs ts) : Token.nesting ts = 0 := by
  induction h with
  | single hc => exact hc.nesting_eq_zero
  | @cons t comma c cs ts hc hcomma _ ih =>
      rw [Token.nesting_cons, Token.nesting_cons comma, hc.nesting_eq_zero, ih,
        hcomma.nesting_eq_zero (by decide) (by decide)]
      rfl

theorem Connective.nesting_eq_zero {g : Connective} {t : Token} (ht : t.IsA g.kind) :
    Token.nesting [t] = 0 := by
  apply ht.nesting_eq_zero <;> cases g <;> decide

/-- Expressions and filters close all parentheses that they open. -/
theorem Whitelist.Derives.nesting_eq_zero {w : Whitelist} {κ : Category} {φ : Formula}
    {ts : List Token} (h : w.Derives κ φ ts) : Token.nesting ts = 0 := by
  induction h with
  | flag hf _ => exact hf.nesting_eq_zero
  | @compared t op x f k c hf hop hcmp _ _ hx =>
      rw [Token.nesting_cons, Token.nesting_cons op, hf.nesting_eq_zero, hx.nesting_eq_zero,
        hop.nesting_eq_zero_of_mem hcmp (by decide) (by decide)]
      rfl
  | @listed t op open_ close f cs ts hf hop _ hopen hl hclose =>
      rw [Token.nesting_cons, Token.nesting_cons op, Token.nesting_enclosed hopen hclose,
        hf.nesting_eq_zero, hl.nesting_eq_zero, hop.nesting_eq_zero (by decide) (by decide)]
      rfl
  | @call fn open_ t comma x close f k v hfn hk hopen hf _ hcomma hx hclose =>
      have hargs : Token.nesting (open_ :: ([t, comma, x] ++ [close])) = 0 := by
        rw [Token.nesting_enclosed hopen hclose, Token.nesting_cons, Token.nesting_cons comma,
          hf.nesting_eq_zero, hx.nesting_eq_zero, hcomma.nesting_eq_zero (by decide) (by decide)]
        rfl
      rw [Token.nesting_cons, hfn.nesting_eq_zero_of_mem hk (by decide) (by decide)]
      exact (Int.zero_add _).trans hargs
  | group hopen _ hclose ih => rw [Token.nesting_enclosed hopen hclose, ih]
  | @negation not open_ close φ ts hnot hopen _ hclose ih =>
      rw [Token.nesting_cons, Token.nesting_enclosed hopen hclose, ih,
        hnot.nesting_eq_zero (by decide) (by decide)]
      rfl
  | single _ ih => exact ih
  | @join φ ψ ts us t g _ ht _ ihφ ihψ =>
      rw [Token.nesting_append, Token.nesting_cons, ihφ, ihψ, Connective.nesting_eq_zero ht]
      rfl

/-- Tokens that lead up to an expression leave as many parentheses open as they lead into. -/
theorem Whitelist.Leads.nesting_eq {w : Whitelist} {depth : Nat} {ts : List Token}
    (h : w.Leads depth ts) : Token.nesting ts = depth := by
  induction h with
  | start => rfl
  | join _ hφ ht ih =>
      rw [Token.nesting_append, Token.nesting_append, ih, hφ.nesting_eq_zero,
        Connective.nesting_eq_zero ht]
      omega
  | group _ hopen ih =>
      rw [Token.nesting_append, ih, hopen.nesting_eq, if_pos rfl]
      omega
  | negation _ hnot hopen ih =>
      rw [Token.nesting_append, Token.nesting_append, ih, hopen.nesting_eq, if_pos rfl,
        hnot.nesting_eq_zero (by decide) (by decide)]
      omega

/-- The depth of a state is the nesting of its tokens, unless a list or a call is still open. -/
theorem Progress.Spells.nesting_eq {w : Whitelist} {p : Progress} {ts : List Token}
    (h : p.Spells w ts) (hdone : ∀ n ∈ p.pending?, n.isComplete = true) :
    Token.nesting ts = p.cursor.depth := by
  cases h with
  | expecting _ hlead => exact hlead.nesting_eq
  | negated hlead hnot =>
      rw [Token.nesting_append, hlead.nesting_eq, hnot.nesting_eq_zero (by decide) (by decide)]
      exact Int.add_zero _
  | comparison hlead hc =>
      obtain ⟨φ, hφ⟩ := hc.exists_derives (hdone _ rfl)
      rw [Token.nesting_append, hlead.nesting_eq, hφ.nesting_eq_zero]
      exact Int.add_zero _
  | call hlead hc =>
      obtain ⟨φ, hφ⟩ := hc.exists_derives (hdone _ rfl)
      rw [Token.nesting_append, hlead.nesting_eq, hφ.nesting_eq_zero]
      exact Int.add_zero _
  | closed hlead hφ =>
      rw [Token.nesting_append, hlead.nesting_eq, hφ.nesting_eq_zero]
      exact Int.add_zero _

/-! ### Causes -/

/-- The tokens end inside an expression, where a constant of the field is needed: behind the field
and an operator, inside a list of the field, or inside a call on the field. -/
inductive Whitelist.Awaits (w : Whitelist) (f : Field) : Bool → List Token → Prop where
  | compared {depth : Nat} {ls : List Token} {u op : Token} {k : Kind} : w.Leads depth ls →
      w.Names u f → op.IsA k → k ∈ KindSet.comparison → k ≠ .memberOf → k ∈ f.supported →
      Whitelist.Awaits w f (decide (k ∈ KindSet.equality)) (ls ++ [u, op])
  | first {depth : Nat} {ls : List Token} {u op open_ : Token} : w.Leads depth ls →
      w.Names u f → op.IsA .memberOf → .memberOf ∈ f.supported → open_.IsA .openParen →
      Whitelist.Awaits w f true (ls ++ [u, op, open_])
  | item {depth : Nat} {ls xs : List Token} {u op open_ comma : Token} {cs : List Constant} :
      w.Leads depth ls → w.Names u f → op.IsA .memberOf → .memberOf ∈ f.supported →
      open_.IsA .openParen → f.Lists cs xs → comma.IsA .comma →
      Whitelist.Awaits w f true (ls ++ u :: op :: open_ :: (xs ++ [comma]))
  | argument {depth : Nat} {ls : List Token} {fn open_ u comma : Token} {k : Kind} :
      w.Leads depth ls → fn.IsA k → k ∈ KindSet.stringFunction → open_.IsA .openParen →
      w.Names u f → k ∈ f.supported → comma.IsA .comma →
      Whitelist.Awaits w f false (ls ++ [fn, open_, u, comma])

/-- The causes for which a token is refused behind others. -/
inductive Whitelist.Refuses (w : Whitelist) : List Token → Token → Refusal → Prop where
  /-- The token stands where nothing of its kind may stand. -/
  | misplaced {ts : List Token} {t : Token} : Whitelist.Refuses w ts t (.misplaced t.text t.start)
  /-- The token closes a parenthesis and none is open. -/
  | unbalanced {ts : List Token} {t : Token} : t.IsA .closeParen → Token.nesting ts = 0 →
      Whitelist.Refuses w ts t (.unbalanced t.text t.start)
  /-- The token looks like a field and names none, unlike those before it. -/
  | unknownField {ts : List Token} {t : Token} : t.IsA .field → w.find? t.text = none →
      (∀ u ∈ ts, u.IsA .field → ∃ f, w.Names u f) →
      Whitelist.Refuses w ts t (.unknownField t.text)
  /-- The token is a constant that the field of its expression does not take. -/
  | invalidValue {ts : List Token} {t : Token} {f : Field} {k : Kind} {allowNull : Bool} :
      w.Awaits f allowNull ts → t.IsA k → k ∈ KindSet.constant →
      (∀ c, ¬ f.Admits allowNull t c) →
      Whitelist.Refuses w ts t (.invalidValue f.name t.text)
  /-- The token is an operator that the field before it does not support. -/
  | operator {depth : Nat} {ls : List Token} {u t : Token} {f : Field} {k : Kind} :
      w.Leads depth ls → w.Names u f → t.IsA k → k ∈ KindSet.comparison → k ∉ f.supported →
      Whitelist.Refuses w (ls ++ [u]) t (.unsupportedOperator f.name t.text)
  /-- The token names a field that does not support the function it is an argument of. -/
  | function {depth : Nat} {ls : List Token} {fn open_ t : Token} {f : Field} {k : Kind}
      {name : String} : w.Leads depth ls → fn.IsA k → k.functionName? = some name →
      open_.IsA .openParen → w.Names t f → k ∉ f.supported →
      Whitelist.Refuses w (ls ++ [fn, open_]) t (.unsupportedOperator f.name name)

/-- The causes for which a text is refused.  Positions and texts are those of its tokens. -/
inductive Whitelist.Blames (w : Whitelist) (source : String) : Refusal → Prop where
  /-- A token is refused, and those before it are read. -/
  | token {ts us : List Token} {ns : List Node} {p : Progress} {t : Token} {r : Refusal} :
      (w.scan source).items = ts ++ t :: us → w.IsTile source t →
      Progress.initial.Reads w ts ns p → p.accept w t = .error r → w.Refuses ts t r →
      Whitelist.Blames w source r
  /-- Behind the tokens, which are read, a quote opens a literal that is not closed. -/
  | unterminatedLiteral {ns : List Node} {p : Progress} {i : Nat} {body : List Char} :
      w.Tiles ⟨0, source.toList⟩ (w.scan source).items ⟨i, '\'' :: body⟩ →
      Text.IsLiteralBody body → Progress.initial.Reads w (w.scan source).items ns p →
      Whitelist.Blames w source (.unterminatedLiteral i)
  /-- The text ends behind its last token, and a parenthesis is still open. -/
  | unbalanced {ns : List Node} {p : Progress} {t : Token} :
      (w.scan source).refusal? = none → (w.scan source).items.getLast? = some t →
      w.IsTile source t → Progress.initial.Reads w (w.scan source).items ns p →
      0 < Token.nesting (w.scan source).items →
      Whitelist.Blames w source (.unbalanced t.text t.start)
  /-- The text ends behind its last token, and its tokens, which are read, are no filter yet. -/
  | incomplete {ns : List Node} {p : Progress} {t : Token} :
      (w.scan source).refusal? = none → (w.scan source).items.getLast? = some t →
      w.IsTile source t → Progress.initial.Reads w (w.scan source).items ns p →
      (∀ φ, ¬ w.Derives .filter φ (w.scan source).items) →
      Whitelist.Blames w source (.incomplete t.text t.start)

/-! ### Refusals of nodes -/

section Nodes

variable {w : Whitelist} {f : Field} {t : Token} {k : Kind} {r : Refusal} {depth : Nat}
  {ls ts us : List Token}

/-- A token is refused as a field if it does not look like one or names none. -/
theorem Whitelist.refuses_of_fieldOf (ht : t.IsA k)
    (hnames : ∀ u ∈ ts, u.IsA .field → ∃ f, w.Names u f) (h : w.fieldOf t = .error r) :
    w.Refuses ts t r := by
  unfold fieldOf resolve at h
  split at h
  · next hfield =>
      obtain rfl := (ht.is_iff _).1 hfield
      split at h
      · contradiction
      · next hnone =>
          obtain rfl := Except.error.inj h
          exact .unknownField ht hnone hnames
  · obtain rfl := Except.error.inj h
    exact .misplaced

/-- A token is refused as a constant if it does not look like one or the field does not take it. -/
theorem Whitelist.Awaits.refuses {allowNull : Bool} (ha : w.Awaits f allowNull ts) (ht : t.IsA k)
    (h : f.readConstant allowNull t = .error r) : w.Refuses ts t r := by
  have hnone : ∀ c, ¬ f.Admits allowNull t c := by
    intro c hc
    rw [Field.readConstant_of_admits hc] at h
    contradiction
  rw [Field.readConstant_eq ht] at h
  split at h
  · obtain rfl := Except.error.inj h
    exact .misplaced
  next hconst =>
  have hinvalid : w.Refuses ts t (f.invalidValue t) :=
    .invalidValue ha ht (Decidable.not_not.1 hconst) hnone
  split at h
  · obtain rfl := Except.error.inj h
    exact hinvalid
  split at h
  · contradiction
  split at h
  · contradiction
  · obtain rfl := Except.error.inj h
    exact hinvalid

/-- Behind a field a token is refused if it is no operator or the field does not support it. -/
theorem Comparison.refuses_of_takeOperator {u : Token} (hlead : w.Leads depth ls)
    (hf : w.Names u f) (ht : t.IsA k) (h : takeOperator f t = .error r) :
    w.Refuses (ls ++ [u]) t r := by
  have hk : t.kinds = .single k := ht
  unfold takeOperator at h
  split at h
  · obtain rfl := Except.error.inj h
    exact .misplaced
  next hcmp =>
  split at h
  · next hsup =>
      obtain rfl := Except.error.inj h
      refine .operator hlead hf ht ?_ ?_
      · simpa [ht.isOf_iff] using hcmp
      · simpa [Field.supports, hk, KindSet.covers_single_eq] using hsup
  next hsup =>
  split at h <;> contradiction

/-- What a comparison refuses has one of the causes. -/
theorem Comparison.Spells.refuses {c : Comparison} (h : c.Spells w us) (hlead : w.Leads depth ls)
    (ht : t.IsA k) (hnames : ∀ u ∈ ls ++ us, u.IsA .field → ∃ f, w.Names u f)
    (hadd : c.add w t = .error r) : w.Refuses (ls ++ us) t r := by
  cases h with
  | blank => exact Whitelist.refuses_of_fieldOf ht hnames (map_eq_error_iff.1 hadd)
  | flag hf _ => exact refuses_of_takeOperator hlead hf ht hadd
  | named hf _ => exact refuses_of_takeOperator hlead hf ht hadd
  | operated hf hop hcmp hm hsup =>
      have hread := map_eq_error_iff.1 hadd
      rw [KindSet.covers_single_eq] at hread
      exact (Whitelist.Awaits.compared hlead hf hop hcmp hm hsup).refuses ht hread
  | first hf hop hsup hopen =>
      exact (Whitelist.Awaits.first hlead hf hop hsup hopen).refuses ht (map_eq_error_iff.1 hadd)
  | item hf hop hsup hopen hl hcomma =>
      exact (Whitelist.Awaits.item hlead hf hop hsup hopen hl hcomma).refuses ht
        (map_eq_error_iff.1 hadd)
  -- What is left needs a mark or nothing at all, and any other token is out of place.
  | compared _ _ _ _ _ _ =>
      obtain rfl := Except.error.inj hadd
      exact .misplaced
  | closed _ _ _ _ _ _ =>
      obtain rfl := Except.error.inj hadd
      exact .misplaced
  | opening _ _ _ =>
      simp only [add] at hadd
      split at hadd
      · contradiction
      · obtain rfl := Except.error.inj hadd
        exact .misplaced
  | separator _ _ _ _ _ =>
      simp only [add] at hadd
      split at hadd
      · contradiction
      split at hadd
      · contradiction
      · obtain rfl := Except.error.inj hadd
        exact .misplaced

/-- What a call refuses has one of the causes. -/
theorem Call.Spells.refuses {c : Call} (h : c.Spells w us) (hlead : w.Leads depth ls)
    (ht : t.IsA k) (hnames : ∀ u ∈ ls ++ us, u.IsA .field → ∃ f, w.Names u f)
    (hadd : c.add w t = .error r) : w.Refuses (ls ++ us) t r := by
  unfold add at hadd
  split at hadd
  · obtain rfl := Except.error.inj hadd
    exact .misplaced
  cases h with
  | @opened fn open_ l hfn hl hopen =>
      rcases bind_eq_error_iff.1 hadd with hfield | ⟨f, hfield, hsup⟩
      · exact Whitelist.refuses_of_fieldOf ht hnames hfield
      · split at hsup
        · contradiction
        next hnot =>
        obtain rfl := Except.error.inj hsup
        have hname : l.functionName? = some ((KindSet.single l).functionName?.getD "") := by
          rw [KindSet.functionName?_single]
          revert hl
          cases l <;> decide
        refine .function hlead hfn hname hopen ((Whitelist.fieldOf_eq_ok_iff ht).1 hfield) ?_
        simpa [Field.supports, KindSet.covers_single_eq] using hnot
  | @separated fn open_ u comma l f hfn hl hopen hf hsup hcomma =>
      rcases bind_eq_error_iff.1 hadd with hread | ⟨c, hread, hvalue⟩
      · exact (Whitelist.Awaits.argument hlead hfn hl hopen hf hsup hcomma).refuses ht hread
      · cases c with
        | null =>
            -- A call does not allow nulls, so none has been read.
            cases Field.admits_of_readConstant ht hread with
            | null _ hallow _ => contradiction
        | value v => contradiction
  | _ => contradiction

end Nodes

/-! ### Refusals of states -/

/-- A cursor refuses a token as out of place, as a parenthesis without a partner, or as the node
that it starts does. -/
theorem Cursor.cases_of_start_eq_error {w : Whitelist} {c : Cursor} {t : Token} {k : Kind}
    {r : Refusal} (ht : t.IsA k) (h : c.start w t = .error r) :
    r = t.misplaced ∨
      (k = .closeParen ∧ c.canOpen = false ∧ c.depth = 0 ∧ r = t.unbalanced) ∨
      (c.afterNot = false ∧ c.canOpen = true ∧
        (Comparison.blank.add w t = .error r ∨ Call.blank.add w t = .error r)) := by
  simp only [start, ht.kinds_eq_iff, ht.isOf_iff, ne_eq] at h
  split at h
  · exact .inl (Except.error.inj h).symm
  next hnot =>
  have hn : k ≠ .openParen → c.afterNot = false := by
    intro hk
    by_contra hc
    exact hnot ⟨by simpa using hc, hk⟩
  split at h
  · next hfield =>
      obtain ⟨rfl, hopen⟩ := hfield
      exact .inr (.inr ⟨hn (by decide), hopen, .inl (map_eq_error_iff.1 h)⟩)
  split at h
  · next hcall =>
      obtain ⟨hfn, hopen⟩ := hcall
      refine .inr (.inr ⟨hn ?_, hopen, .inr (map_eq_error_iff.1 h)⟩)
      rintro rfl
      simp [KindSet.stringFunction] at hfn
  split at h
  · contradiction
  split at h
  · next hclose =>
      obtain ⟨rfl, hopen⟩ := hclose
      split at h
      · next hdepth =>
          exact .inr (.inl ⟨rfl, by simpa using hopen, hdepth, (Except.error.inj h).symm⟩)
      · contradiction
  split at h
  · contradiction
  split at h
  · contradiction
  · exact .inl (Except.error.inj h).symm

/-- The refusal of a token where nothing is pending that could take it. -/
theorem Progress.start_eq_error_of_accept {w : Whitelist} {p : Progress} {t : Token} {r : Refusal}
    (h : p.accept w t = .error r) (hnone : ∀ n ∈ p.pending?, n.canAdd t = false) :
    p.cursor.start w t = .error r := by
  rw [accept, taker?_eq_none_iff.2 hnone] at h
  exact map_eq_error_iff.1 h

/-- The refusal of a token that the pending node could take. -/
theorem Progress.add_eq_error_of_accept {w : Whitelist} {p : Progress} {n : Node} {t : Token}
    {r : Refusal} (h : p.accept w t = .error r) (hpending : p.pending? = some n)
    (hcan : n.canAdd t = true) : n.add w t = .error r := by
  have htaker : p.taker? t = some n := Option.filter_eq_some_iff.2 ⟨hpending, hcan⟩
  rw [accept, htaker] at h
  exact map_eq_error_iff.1 h

section States

variable {w : Whitelist} {p q : Progress} {t : Token} {k : Kind} {r : Refusal} {depth : Nat}
  {ls ts us : List Token} {ns : List Node}

/-- Where an expression is expected a token is refused out of place or as the start of one. -/
theorem Whitelist.Leads.refuses (hlead : w.Leads depth ts) (ht : t.IsA k)
    (hnames : ∀ u ∈ ts, u.IsA .field → ∃ f, w.Names u f)
    (h : (Cursor.expecting depth).start w t = .error r) : w.Refuses ts t r := by
  rcases Cursor.cases_of_start_eq_error ht h with rfl | ⟨-, hclosed, -, -⟩ | ⟨-, -, hadd⟩
  · exact .misplaced
  · contradiction
  · rw [← List.append_nil ts] at hnames ⊢
    rcases hadd with hadd | hadd
    · exact Comparison.Spells.blank.refuses hlead ht hnames hadd
    · exact Call.Spells.blank.refuses hlead ht hnames hadd

/-- Behind an expression a token is refused out of place or as a parenthesis without a partner. -/
theorem Whitelist.refuses_of_operand (ht : t.IsA k) (hnesting : Token.nesting ts = depth)
    (h : (Cursor.operand depth).start w t = .error r) : w.Refuses ts t r := by
  rcases Cursor.cases_of_start_eq_error ht h with rfl | ⟨rfl, -, hdepth, rfl⟩ | ⟨-, hopen, -⟩
  · exact .misplaced
  · obtain rfl : depth = 0 := hdepth
    exact .unbalanced ht hnesting
  · contradiction

/-- What a state refuses has one of the causes. -/
theorem Progress.Spells.refuses (h : p.Spells w ts) (ht : t.IsA k)
    (hnames : ∀ u ∈ ts, u.IsA .field → ∃ f, w.Names u f) (hacc : p.accept w t = .error r) :
    w.Refuses ts t r := by
  -- Where the pending node cannot take the token it is complete, and so is every list and call.
  have hstart : (∀ n ∈ p.pending?, n.canAdd t = false) →
      p.cursor.start w t = .error r ∧ Token.nesting ts = p.cursor.depth := by
    intro hnone
    refine ⟨start_eq_error_of_accept hacc hnone, h.nesting_eq fun n hn => ?_⟩
    exact Node.isComplete_of_not_canAdd (hnone n hn)
  cases h with
  | expecting hnone hlead =>
      exact hlead.refuses ht hnames (hstart fun n hn => hnone n hn t).1
  | negated hlead hnot =>
      have hcursor := (hstart fun n hn => by obtain rfl := Option.some.inj hn; rfl).1
      rcases Cursor.cases_of_start_eq_error ht hcursor with rfl | ⟨-, hclosed, -, -⟩ | ⟨hafter, -⟩
      · exact .misplaced
      · contradiction
      · contradiction
  | @comparison depth c last? ls us hlead hc =>
      cases hcan : c.canAdd t with
      | true =>
          exact hc.refuses hlead ht hnames
            (map_eq_error_iff.1 (add_eq_error_of_accept hacc rfl hcan))
      | false =>
          obtain ⟨hcursor, hnesting⟩ :=
            hstart fun n hn => by obtain rfl := Option.some.inj hn; exact hcan
          exact Whitelist.refuses_of_operand ht hnesting hcursor
  | @call depth c last? ls us hlead hc =>
      cases hcan : c.canAdd t with
      | true =>
          exact hc.refuses hlead ht hnames
            (map_eq_error_iff.1 (add_eq_error_of_accept hacc rfl hcan))
      | false =>
          obtain ⟨hcursor, hnesting⟩ :=
            hstart fun n hn => by obtain rfl := Option.some.inj hn; exact hcan
          exact Whitelist.refuses_of_operand ht hnesting hcursor
  | closed hlead hφ =>
      obtain ⟨hcursor, hnesting⟩ :=
        hstart fun n hn => by obtain rfl := Option.some.inj hn; rfl
      exact Whitelist.refuses_of_operand ht hnesting hcursor

/-! ### Fields among the tokens that are read -/

theorem Comparison.Takes.exists_names {c d : Comparison} (h : c.Takes w t d)
    (ht : t.IsA .field) : ∃ f, w.Names t f := by
  cases h with
  | flag hf _ => exact ⟨_, hf⟩
  | named hf _ => exact ⟨_, hf⟩
  | operator _ hop hcmp _ _ => exact absurd (ht.unique hop ▸ hcmp) (by decide)
  | membership _ hop _ => exact absurd (ht.unique hop) (by decide)
  | constant hx =>
      obtain ⟨l, hl, hconst⟩ := hx.exists_isA
      exact absurd (ht.unique hl ▸ hconst) (by decide)
  | opening hl => exact absurd (ht.unique hl) (by decide)
  | item hx =>
      obtain ⟨l, hl, hconst⟩ := hx.exists_isA
      exact absurd (ht.unique hl ▸ hconst) (by decide)
  | comma hl => exact absurd (ht.unique hl) (by decide)
  | close hl => exact absurd (ht.unique hl) (by decide)

theorem Call.Takes.exists_names {c d : Call} (h : c.Takes w t d) (ht : t.IsA .field) :
    ∃ f, w.Names t f := by
  cases h with
  | field hf _ => exact ⟨_, hf⟩
  | name hfn hk => exact absurd (ht.unique hfn ▸ hk) (by decide)
  | opening hl => exact absurd (ht.unique hl) (by decide)
  | comma hl => exact absurd (ht.unique hl) (by decide)
  | value hx =>
      obtain ⟨l, hl, hconst⟩ := hx.exists_isA
      exact absurd (ht.unique hl ▸ hconst) (by decide)
  | close hl => exact absurd (ht.unique hl) (by decide)

/-- A token that looks like a field is accepted only if it names one. -/
theorem Progress.Accepts.exists_names (h : p.Accepts w t k q) (ht : t.IsA k) (hk : k = .field) :
    ∃ f, w.Names t f := by
  subst hk
  cases h with
  | @taken n m _ hcan hadd =>
      cases n with
      | comparison c =>
          obtain ⟨d, hd, -⟩ := map_eq_ok_iff.1 hadd
          exact (Comparison.takes_of_add ht hd).exists_names ht
      | call c =>
          obtain ⟨d, hd, -⟩ := map_eq_ok_iff.1 hadd
          exact (Call.takes_of_add ht hd).exists_names ht
      | _ => contradiction
  | started _ hs =>
      obtain ⟨l, hl⟩ : ∃ l, l = Kind.field := ⟨_, rfl⟩
      rw [← hl] at hs
      cases hs with
      | comparison _ _ hn => exact hn.exists_names ht
      | call _ _ _ hn => exact hn.exists_names ht
      | @connective g _ _ => cases g <;> contradiction
      | _ => contradiction

/-- Among tokens that are read those that look like fields name some. -/
theorem Progress.Reads.exists_names (h : p.Reads w ts ns q) :
    ∀ u ∈ ts, u.IsA .field → ∃ f, w.Names u f := by
  induction h with
  | nil p => simp
  | cons hacc _ ih =>
      refine List.forall_mem_cons.2 ⟨fun ht => ?_, ih⟩
      exact ((accept_eq_ok_iff ht).1 hacc).exists_names ht rfl

/-! ### Refusals at the end -/

/-- At the end of a text the refusal is that of an open parenthesis or of a missing expression. -/
theorem Progress.cases_of_finish {last : Token} (hlast : p.last? = some last)
    (h : p.finish.refusal? = some r) :
    r = last.incomplete ∨
      (p.cursor.depth ≠ 0 ∧ (∀ n ∈ p.pending?, n.isComplete = true) ∧ r = last.unbalanced) := by
  have hbalance : p.balance last = some r →
      r = last.incomplete ∨ (p.cursor.depth ≠ 0 ∧ r = last.unbalanced) := by
    intro hr
    unfold balance at hr
    split at hr
    · next hdepth => exact .inr ⟨hdepth, (Option.some.inj hr).symm⟩
    split at hr
    · exact .inl (Option.some.inj hr).symm
    · contradiction
  cases hpending : p.pending? with
  | none =>
      rw [finish, hlast, hpending] at h
      rcases hbalance h with hr | ⟨hdepth, hr⟩
      · exact .inl hr
      · exact .inr ⟨hdepth, by simp, hr⟩
  | some n =>
      rw [finish, hlast, hpending] at h
      cases hdone : n.isComplete with
      | false =>
          simp only [hdone, Bool.false_eq_true, if_false, Yield.ofRefusal] at h
          exact .inl (Option.some.inj h).symm
      | true =>
          simp only [hdone, if_true] at h
          rcases hbalance h with hr | ⟨hdepth, hr⟩
          · exact .inl hr
          · exact .inr ⟨hdepth, by simpa using hdone, hr⟩

end States

/-! ### Refused filters -/

namespace Whitelist

variable {w : Whitelist} {source : String} {r : Refusal}

/-- A text at whose end the reading is refused. -/
theorem blames_of_ending {ns : List Node} {q : Progress}
    (hclosed : (w.scan source).refusal? = none)
    (hread : Progress.initial.Reads w (w.scan source).items ns q)
    (hfinish : q.finish.refusal? = some r) : w.Blames source r := by
  have hq := hread.spells (exists_isA_of_mem_scanFrom w 0 source.toList)
  have hlast := hread.last?_eq
  rw [Progress.initial, Option.or_none] at hlast
  cases hitems : (w.scan source).items.getLast? with
  | none =>
      rw [hitems] at hlast
      rw [Progress.finish, hlast] at hfinish
      contradiction
  | some t =>
      rw [hitems] at hlast
      have htile := isTile_of_mem_scan (List.mem_of_getLast? hitems)
      rcases Progress.cases_of_finish hlast hfinish with rfl | ⟨hdepth, hdone, rfl⟩
      · refine .incomplete hclosed hitems htile hread fun φ hφ => ?_
        obtain ⟨front, q', back, hread', hfinish', -⟩ := exists_reads_of_derives hφ
        obtain ⟨-, rfl⟩ := reads_unique hread hread'
        rw [(Yield.toExcept_eq_ok_iff.1 hfinish').1] at hfinish
        contradiction
      · refine .unbalanced hclosed hitems htile hread ?_
        rw [hq.nesting_eq hdone]
        omega

/-- Every refusal of a text has one of the causes. -/
theorem blames_of_refusal (h : (w.nodes source).refusal? = some r) : w.Blames source r := by
  obtain ⟨ns, q, o, hstops⟩ := Progress.exists_stops_of_refusal h
  have hkinds : ∀ t ∈ (w.scan source).items, ∃ k, t.IsA k :=
    exists_isA_of_mem_scanFrom w 0 source.toList
  generalize hitems : (w.scan source).items = items at hstops hkinds
  cases hstops with
  | @token ts us _ _ t _ hread hacc =>
      obtain ⟨k, ht⟩ := hkinds t (by simp)
      have hq := hread.spells fun u hu => hkinds u (by simp [hu])
      have htile : w.IsTile source t := isTile_of_mem_scan (by simp [hitems])
      exact .token hitems htile hread hacc (hq.refuses ht hread.exists_names hacc)
  | broken hread hbroken =>
      obtain ⟨i, body, htiles, hbody, rfl⟩ := scan_eq_open_iff.1
        (show w.scan source = ⟨items, some r⟩ by rw [← hitems, ← hbroken])
      subst hitems
      exact .unterminatedLiteral htiles hbody hread
  | ending hread hclosed hfinish =>
      subst hitems
      exact blames_of_ending hclosed hread hfinish

/-- **Every refusal of a filter has the cause that it names**, and none is that of an ordering or of
a registration. -/
theorem blames_of_parse_eq_error {filter : Option String} (h : w.parse filter = .error r) :
    (∃ source, filter = some source ∧ w.Blames source r) ∧
      (∀ fault, r ≠ .ordering fault) ∧ ∀ name, r ≠ .duplicateField name := by
  cases filter with
  | none => contradiction
  | some source =>
      have hblames := blames_of_refusal (parse_eq_error_iff.1 h)
      refine ⟨⟨source, rfl, hblames⟩, ?_, ?_⟩
      · rintro fault rfl
        cases hblames with
        | token _ _ _ _ hrefuses => nomatch hrefuses
      · rintro name rfl
        cases hblames with
        | token _ _ _ _ hrefuses => nomatch hrefuses

/-- The field is renamed in the output, and the refusal names it as it is registered. -/
theorem blames_of_parse_eq_error_renamed :
    people.parse (some "active and contains(name, 5)") = .error (.invalidValue "name" "5") ∧
      (∃ source, some "active and contains(name, 5)" = some source ∧
        people.Blames source (.invalidValue "name" "5")) ∧
      (∀ fault, Refusal.invalidValue "name" "5" ≠ .ordering fault) ∧
      ∀ name, Refusal.invalidValue "name" "5" ≠ .duplicateField name := by
  have h : people.parse (some "active and contains(name, 5)") =
      .error (.invalidValue "name" "5") := by
    decide +kernel
  exact ⟨h, blames_of_parse_eq_error h⟩

end Whitelist

end FilterQuery
