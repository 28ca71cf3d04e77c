/-
**Noninterference: no constant of a caller influences the text of a predicate.**

Two texts are read side by side.  Their tokens agree except that where the one has a constant that
is not null the other may have any other such constant.  The states of both readings then agree
except for values, so the same nodes are handed out up to values, and what is written for a value
does not depend on it.

Main definitions:

* `Whitelist.Alike` — tokens that agree except for a constant;
* `Constant.Alike`, `Comparison.Alike`, `Call.Alike`, `Node.Alike`, `Progress.Alike` — the same
  data except for values.

Main results:

* `Progress.Alike.step` — alike tokens lead from alike states to alike states;
* `Progress.Alike.reads` — so do sequences of tokens, and the nodes handed out are alike;
* `Predicate.text_write_eq` — pieces that differ in their values write the same text.
-/

import FilterQuery.Proofs.Completeness
import Mathlib.Data.List.Forall2

set_option relaxedAutoImplicit false
set_option autoImplicit false

namespace FilterQuery

/-! ### Related options -/

section Options

variable {α β : Type} {r : α → β → Prop} {a : Option α} {b : Option β}

theorem rel_filter {f : α → Bool} {g : β → Bool} (h : Option.Rel r a b)
    (hfg : ∀ x y, r x y → f x = g y) : Option.Rel r (a.filter f) (b.filter g) := by
  cases h with
  | none => exact .none
  | @some x y hxy =>
      rw [Option.filter_some, Option.filter_some, hfg x y hxy]
      split
      · exact .some hxy
      · exact .none

theorem forall₂_toList (h : Option.Rel r a b) : List.Forall₂ r a.toList b.toList := by
  cases h with
  | none => exact .nil
  | some hxy => exact .cons hxy .nil

end Options

/-! ### Tokens that agree except for a constant -/

/-- The kinds of the constants that are not null. -/
def KindSet.argument : KindSet :=
  .ofList [.literal, .value, .trueWord, .falseWord]

/-- The tokens are of the same kinds and name the same field if they name one, or both are
constants that are not null. -/
inductive Whitelist.Alike (w : Whitelist) (t u : Token) : Prop where
  | same : t.kinds = u.kinds → (t.IsA .field → w.find? t.text = w.find? u.text) →
      Whitelist.Alike w t u
  | constants {k l : Kind} : t.IsA k → u.IsA l → k ∈ KindSet.argument → l ∈ KindSet.argument →
      Whitelist.Alike w t u

namespace Whitelist.Alike

variable {w : Whitelist} {t u : Token} {k : Kind} {s : KindSet} {f : Field}

theorem isA (h : w.Alike t u) (ht : t.IsA k) (hk : k ∉ KindSet.argument) : u.IsA k := by
  cases h with
  | same hkinds _ => exact hkinds.symm.trans ht
  | constants ht' _ hk' _ =>
      obtain rfl := ht.unique ht'
      exact absurd hk' hk

/-- Alike tokens meet the same kinds if no constant that is not null is among them. -/
theorem isOf_eq (h : w.Alike t u) (hs : ∀ k ∈ KindSet.argument, k ∉ s) : t.isOf s = u.isOf s := by
  cases h with
  | same hkinds _ => rw [Token.isOf, Token.isOf, hkinds]
  | constants ht hu hk hl =>
      rw [Bool.eq_iff_iff, ht.isOf_iff, hu.isOf_iff]
      exact iff_of_false (hs _ hk) (hs _ hl)

/-- Alike tokens name the same field. -/
theorem names (h : w.Alike t u) (hf : w.Names t f) : w.Names u f := by
  refine ⟨h.isA hf.1 (by decide), ?_⟩
  cases h with
  | same _ hfind => rw [← hfind hf.1, hf.2]
  | constants ht _ hk _ =>
      obtain rfl := hf.1.unique ht
      exact absurd hk (by decide)

end Whitelist.Alike

/-! ### States that agree except for values -/

/-- Both constants are null, or neither is. -/
inductive Constant.Alike : Constant → Constant → Prop where
  | null : Constant.Alike .null .null
  | value (v v' : Value) : Constant.Alike (.value v) (.value v')

inductive Comparison.Alike : Comparison → Comparison → Prop where
  | blank : Comparison.Alike .blank .blank
  | flag (f : Field) : Comparison.Alike (.flag f) (.flag f)
  | named (f : Field) : Comparison.Alike (.named f) (.named f)
  | operated (f : Field) (op : KindSet) : Comparison.Alike (.operated f op) (.operated f op)
  | compared {f : Field} {op : KindSet} {c c' : Constant} : c.Alike c' →
      Comparison.Alike (.compared f op c) (.compared f op c')
  | listed {f : Field} {cs cs' : List Constant} {stage : ListStage} :
      List.Forall₂ Constant.Alike cs cs' →
      Comparison.Alike (.listed f cs stage) (.listed f cs' stage)

inductive Call.Alike : Call → Call → Prop where
  | blank : Call.Alike .blank .blank
  | named (fn : KindSet) : Call.Alike (.named fn) (.named fn)
  | opened (fn : KindSet) : Call.Alike (.opened fn) (.opened fn)
  | fielded (fn : KindSet) (f : Field) : Call.Alike (.fielded fn f) (.fielded fn f)
  | separated (fn : KindSet) (f : Field) : Call.Alike (.separated fn f) (.separated fn f)
  | valued (fn : KindSet) (f : Field) (v v' : Value) :
      Call.Alike (.valued fn f v) (.valued fn f v')
  | closed (fn : KindSet) (f : Field) (v v' : Value) :
      Call.Alike (.closed fn f v) (.closed fn f v')

/-- The nodes agree except for values and for the tokens of their parentheses. -/
inductive Node.Alike : Node → Node → Prop where
  | comparison {c c' : Comparison} : c.Alike c' → Node.Alike (.comparison c) (.comparison c')
  | call {c c' : Call} : c.Alike c' → Node.Alike (.call c) (.call c')
  | logical (kinds : KindSet) : Node.Alike (.logical kinds) (.logical kinds)
  | openParen (t t' : Token) : Node.Alike (.openParen t) (.openParen t')
  | closeParen (t t' : Token) : Node.Alike (.closeParen t) (.closeParen t')

/-- The states agree except for values and for tokens. -/
structure Progress.Alike (p p' : Progress) : Prop where
  cursor_eq : p.cursor = p'.cursor
  pending : Option.Rel Node.Alike p.pending? p'.pending?

/-! ### One step -/

section Steps

variable {w : Whitelist} {t t' : Token}

theorem Field.Admits.isA_nullWord_iff {f : Field} {b : Bool} {c : Constant}
    (h : f.Admits b t c) : t.IsA .nullWord ↔ c = .null := by
  cases h with
  | null ht _ _ => simp [ht]
  | literal ht _ _ => simpa using fun hn => absurd (ht.unique hn) (by decide)
  | word ht hk _ _ =>
      simp only [reduceCtorEq, iff_false]
      intro hn
      obtain rfl := ht.unique hn
      simp at hk

theorem Constant.alike_of_admits {f f' : Field} {b b' : Bool} {c c' : Constant}
    (ht : w.Alike t t') (h : f.Admits b t c) (h' : f'.Admits b' t' c') : c.Alike c' := by
  have hnull : t.IsA .nullWord ↔ t'.IsA .nullWord := by
    cases ht with
    | same hkinds _ => rw [Token.IsA, Token.IsA, hkinds]
    | constants hk hl hka hla =>
        refine iff_of_false ?_ ?_
        · intro hn
          exact absurd (hk.unique hn ▸ hka) (by decide)
        · intro hn
          exact absurd (hl.unique hn ▸ hla) (by decide)
  rw [h.isA_nullWord_iff, h'.isA_nullWord_iff] at hnull
  cases c with
  | null =>
      rw [hnull.1 rfl]
      exact .null
  | value v =>
      cases c' with
      | null => exact absurd (hnull.2 rfl) (by simp)
      | value v' => exact .value v v'

theorem Comparison.Alike.isBare {c c' : Comparison} {f : Field} (h : c.Alike c')
    (hc : c.IsBare f) : c'.IsBare f := by
  rcases hc with rfl | rfl
  · cases h
    exact .inl rfl
  · cases h
    exact .inr rfl

/-- Alike tokens lead from alike comparisons to alike comparisons. -/
theorem Comparison.Alike.step {c c' d d' : Comparison} (h : c.Alike c') (ht : w.Alike t t')
    (hs : c.Takes w t d) (hs' : c'.Takes w t' d') : d.Alike d' := by
  -- Where no constant is read the other comparison can only take the same step.
  cases hs with
  | flag hf hb =>
      cases h
      rw [hs'.unique (.flag (ht.names hf) hb)]
      exact .flag _
  | named hf hb =>
      cases h
      rw [hs'.unique (.named (ht.names hf) hb)]
      exact .named _
  | @operator _ _ f k hc hk hcmp hm hsup =>
      have hk' := ht.isA hk (by revert hcmp; cases k <;> decide)
      rw [hs'.unique (.operator (h.isBare hc) hk' hcmp hm hsup)]
      exact .operated _ _
  | membership hc hk hsup =>
      rw [hs'.unique (.membership (h.isBare hc) (ht.isA hk (by decide)) hsup)]
      exact .listed .nil
  | constant hx =>
      cases h
      cases hs' with
      | constant hx' => exact .compared (Constant.alike_of_admits ht hx hx')
      | operator hc => simp [IsBare] at hc
      | membership hc => simp [IsBare] at hc
  | opening hk =>
      cases h with
      | listed hcs =>
          rw [hs'.unique (.opening (ht.isA hk (by decide)))]
          exact .listed hcs
  | item hx =>
      cases h with
      | listed hcs =>
          cases hs' with
          | item hx' =>
              exact .listed (List.rel_append hcs (.cons (Constant.alike_of_admits ht hx hx') .nil))
          | operator hc => simp [IsBare] at hc
          | membership hc => simp [IsBare] at hc
  | comma hk =>
      cases h with
      | listed hcs =>
          rw [hs'.unique (.comma (ht.isA hk (by decide)))]
          exact .listed hcs
  | close hk =>
      cases h with
      | listed hcs =>
          rw [hs'.unique (.close (ht.isA hk (by decide)))]
          exact .listed hcs

/-- Alike tokens lead from alike calls to alike calls. -/
theorem Call.Alike.step {c c' d d' : Call} (h : c.Alike c') (ht : w.Alike t t')
    (hs : c.Takes w t d) (hs' : c'.Takes w t' d') : d.Alike d' := by
  cases hs with
  | @name _ k hk hfn =>
      cases h
      have hk' := ht.isA hk (by revert hfn; cases k <;> decide)
      rw [hs'.unique (.name hk' hfn)]
      exact .named _
  | opening hk =>
      cases h
      rw [hs'.unique (.opening (ht.isA hk (by decide)))]
      exact .opened _
  | field hf hsup =>
      cases h
      rw [hs'.unique (.field (ht.names hf) hsup)]
      exact .fielded _ _
  | comma hk =>
      cases h
      rw [hs'.unique (.comma (ht.isA hk (by decide)))]
      exact .separated _ _
  | value hx =>
      cases h
      cases hs'
      exact .valued _ _ _ _
  | close hk =>
      cases h
      rw [hs'.unique (.close (ht.isA hk (by decide)))]
      exact .closed _ _ _ _

/-- Alike nodes may take alike tokens or may not. -/
theorem Node.Alike.canAdd_eq {n n' : Node} (h : n.Alike n') (ht : w.Alike t t') :
    n.canAdd t = n'.canAdd t' := by
  cases h with
  | comparison hc =>
      cases hc with
      | flag f => exact ht.isOf_eq fun k hk => by revert hk; cases k <;> decide
      | _ => rfl
  | call hc => cases hc <;> rfl
  | _ => rfl

theorem Node.Alike.step {n n' m m' : Node} {k k' : Kind} (h : n.Alike n') (ht : w.Alike t t')
    (hk : t.IsA k) (hk' : t'.IsA k') (hs : n.add w t = .ok m) (hs' : n'.add w t' = .ok m') :
    m.Alike m' := by
  cases h with
  | comparison hc =>
      obtain ⟨d, hd, rfl⟩ := map_eq_ok_iff.1 hs
      obtain ⟨d', hd', rfl⟩ := map_eq_ok_iff.1 hs'
      have hstep := Comparison.takes_of_add hk hd
      exact .comparison (hc.step ht hstep (Comparison.takes_of_add hk' hd'))
  | call hc =>
      obtain ⟨d, hd, rfl⟩ := map_eq_ok_iff.1 hs
      obtain ⟨d', hd', rfl⟩ := map_eq_ok_iff.1 hs'
      have hstep := Call.takes_of_add hk hd
      exact .call (hc.step ht hstep (Call.takes_of_add hk' hd'))
  | _ => simp [Node.add] at hs

/-- No constant starts a node. -/
theorem Cursor.Starts.not_argument {c d : Cursor} {k : Kind} {n : Node} (h : c.Starts w t k d n) :
    k ∉ KindSet.argument := by
  cases h with
  | call _ _ hk _ => revert hk; cases k <;> decide
  | @connective g _ _ => cases g <;> decide
  | _ => decide

/-- A token that is alike to one that starts a node starts an alike node. -/
theorem Cursor.Starts.alike {c d : Cursor} {k : Kind} {n : Node} (h : c.Starts w t k d n)
    (ht : w.Alike t t') (hk : t.IsA k) (hk' : t'.IsA k) :
    ∃ n', c.Starts w t' k d n' ∧ n.Alike n' := by
  cases h with
  | comparison hnot hopen hn =>
      cases hn with
      | flag hf hb =>
          exact ⟨_, .comparison hnot hopen (.flag (ht.names hf) hb), .comparison (.flag _)⟩
      | named hf hb =>
          exact ⟨_, .comparison hnot hopen (.named (ht.names hf) hb), .comparison (.named _)⟩
      | operator hc => simp [Comparison.IsBare] at hc
      | membership hc => simp [Comparison.IsBare] at hc
  | call hnot hopen hfn hn =>
      cases hn with
      | name hl _ =>
          obtain rfl := hk.unique hl
          exact ⟨_, .call hnot hopen hfn (.name hk' hfn), .call (.named _)⟩
  | openParen hopen => exact ⟨_, .openParen hopen, .openParen t t'⟩
  | closeParen hnot hopen hd => exact ⟨_, .closeParen hnot hopen hd, .closeParen t t'⟩
  | connective hnot hjoin => exact ⟨_, .connective hnot hjoin, .logical _⟩
  | negation hnot hopen => exact ⟨_, .negation hnot hopen, .logical _⟩

theorem Cursor.Starts.step {c d d' : Cursor} {k k' : Kind} {n n' : Node} (hk : t.IsA k)
    (hk' : t'.IsA k') (ht : w.Alike t t') (h : c.Starts w t k d n) (h' : c.Starts w t' k' d' n') :
    d = d' ∧ n.Alike n' := by
  obtain rfl := hk'.unique (ht.isA hk h.not_argument)
  obtain ⟨m, hm, halike⟩ := h.alike ht hk hk'
  have heq := (start_of_starts hk' hm).symm.trans (start_of_starts hk' h')
  obtain ⟨rfl, rfl⟩ := Prod.mk.inj (Except.ok.inj heq)
  exact ⟨rfl, halike⟩

end Steps

namespace Progress

variable {w : Whitelist} {t t' : Token} {p p' q q' : Progress}

/-- Alike tokens are taken by the pending nodes of alike states, or by neither. -/
theorem Alike.taker? (h : p.Alike p') (ht : w.Alike t t') :
    Option.Rel Node.Alike (p.taker? t) (p'.taker? t') :=
  rel_filter h.pending fun _ _ hn => hn.canAdd_eq ht

theorem Alike.ended? (h : p.Alike p') (ht : w.Alike t t') :
    Option.Rel Node.Alike (p.ended? t) (p'.ended? t') :=
  rel_filter h.pending fun _ _ hn => congrArg not (hn.canAdd_eq ht)

/-- Alike tokens lead from alike states to alike states. -/
theorem Alike.step {k k' : Kind} (h : p.Alike p') (ht : w.Alike t t') (hk : t.IsA k)
    (hk' : t'.IsA k') (hs : p.accept w t = .ok q) (hs' : p'.accept w t' = .ok q') :
    q.Alike q' := by
  have htaker := h.taker? ht
  unfold accept at hs hs'
  generalize p.taker? t = n? at htaker hs
  generalize p'.taker? t' = n'? at htaker hs'
  cases htaker with
  | some hn =>
      obtain ⟨m, hm, rfl⟩ := map_eq_ok_iff.1 hs
      obtain ⟨m', hm', rfl⟩ := map_eq_ok_iff.1 hs'
      exact ⟨h.cursor_eq, .some (hn.step ht hk hk' hm hm')⟩
  | none =>
      obtain ⟨⟨d, n⟩, hn, rfl⟩ := map_eq_ok_iff.1 hs
      obtain ⟨⟨d', n'⟩, hn', rfl⟩ := map_eq_ok_iff.1 hs'
      rw [← h.cursor_eq] at hn'
      have hstart := Cursor.starts_of_start hk hn
      obtain ⟨hd, halike⟩ := hstart.step hk hk' ht (Cursor.starts_of_start hk' hn')
      exact ⟨hd, .some halike⟩

/-! ### A whole reading -/

/-- Alike tokens are read from alike states to alike states, and alike nodes are handed out. -/
theorem Alike.reads {ts ts' : List Token} {ns ns' : List Node} (h : p.Alike p')
    (hts : List.Forall₂ w.Alike ts ts') (hk : ∀ t ∈ ts, ∃ k, t.IsA k)
    (hk' : ∀ t ∈ ts', ∃ k, t.IsA k) (hread : p.Reads w ts ns q) (hread' : p'.Reads w ts' ns' q') :
    List.Forall₂ Node.Alike ns ns' ∧ q.Alike q' := by
  induction hread generalizing p' ts' ns' with
  | nil p =>
      cases hts
      cases hread'
      exact ⟨.nil, h⟩
  | @cons p r q t ts ns hacc _ ih =>
      cases hts with
      | @cons _ t' _ ts' ht hts =>
          cases hread' with
          | @cons _ r' _ _ _ ns' hacc' hread' =>
              obtain ⟨k, hkt⟩ := hk t (by simp)
              obtain ⟨k', hkt'⟩ := hk' t' (by simp)
              have hr := h.step ht hkt hkt' hacc hacc'
              obtain ⟨hns, hq⟩ := ih hr hts (fun u hu => hk u (by simp [hu]))
                (fun u hu => hk' u (by simp [hu])) hread'
              exact ⟨List.rel_append (forall₂_toList (h.ended? ht)) hns, hq⟩

end Progress

/-! ### Output -/

/-- The text of a piece that is not an argument. -/
def Piece.text? : Piece → Option String
  | .text s => some s
  | .argument _ => none

@[simp] theorem Piece.text?_text (s : String) : (Piece.text s).text? = some s := rfl

@[simp] theorem Piece.text?_argument (v : Value) : (Piece.argument v).text? = none := rfl

namespace Predicate

variable {p p' : Predicate}

theorem text_writePiece_eq {a a' : Piece} (h : a.text? = a'.text?) (htext : p.text = p'.text)
    (hargs : p.args.length = p'.args.length) :
    (p.writePiece a).text = (p'.writePiece a').text ∧
      (p.writePiece a).args.length = (p'.writePiece a').args.length := by
  cases a with
  | text s =>
      cases a' with
      | text s' =>
          obtain rfl := Option.some.inj h
          exact ⟨by simp [writePiece, append, htext], hargs⟩
      | argument v' => simp at h
  | argument v =>
      cases a' with
      | text s' => simp at h
      | argument v' =>
          -- The placeholder depends on how many arguments there are, not on what they are.
          exact ⟨by simp [writePiece, appendValue, append, htext, hargs],
            by simp [writePiece, hargs]⟩

/-- Pieces that differ in their values write the same text and as many arguments. -/
theorem text_write_eq {ps ps' : List Piece} (h : ps.map Piece.text? = ps'.map Piece.text?)
    (htext : p.text = p'.text) (hargs : p.args.length = p'.args.length) :
    (p.write ps).text = (p'.write ps').text ∧
      (p.write ps).args.length = (p'.write ps').args.length := by
  induction ps generalizing ps' p p' with
  | nil =>
      obtain rfl : ps' = [] := by simpa using h.symm
      exact ⟨htext, hargs⟩
  | cons a ps ih =>
      cases ps' with
      | nil => simp at h
      | cons a' ps' =>
          obtain ⟨ha, hps⟩ := List.cons.inj h
          obtain ⟨htext', hargs'⟩ := text_writePiece_eq ha htext hargs
          rw [write_cons, write_cons]
          exact ih hps htext' hargs'

end Predicate

theorem Constant.Alike.piece {c c' : Constant} (h : c.Alike c') :
    c.piece.text? = c'.piece.text? := by
  cases h <;> rfl

theorem Comparison.map_text?_listPieces {cs cs' : List Constant}
    (h : List.Forall₂ Constant.Alike cs cs') :
    (listPieces cs).map Piece.text? = (listPieces cs').map Piece.text? := by
  induction h with
  | nil => rfl
  | @cons c c' cs cs' hc hcs ih =>
      cases hcs with
      | nil => simp [listPieces, hc.piece]
      | cons _ _ => simpa [listPieces, hc.piece] using ih

theorem Field.map_text?_guard {f : Field} {ps ps' : List Piece}
    (h : ps.map Piece.text? = ps'.map Piece.text?) :
    (f.guard ps).map Piece.text? = (f.guard ps').map Piece.text? := by
  unfold guard
  split <;> simp [h]

theorem Call.map_text?_pieces (fn : KindSet) (f : Field) (v v' : Value) :
    (Call.valued fn f v).pieces.map Piece.text? = (Call.valued fn f v').pieces.map Piece.text? := by
  unfold pieces field? function? value?
  dsimp only
  cases (some fn).bind KindSet.functionName? with
  | none => rfl
  | some name => exact Field.map_text?_guard rfl

theorem Node.Alike.pieces {n n' : Node} (h : n.Alike n') :
    n.pieces.map Piece.text? = n'.pieces.map Piece.text? := by
  cases h with
  | comparison hc =>
      cases hc with
      | @compared f op c c' hc =>
          cases hc with
          | null => rfl
          | value v v' => exact Field.map_text?_guard rfl
      | listed hcs => simp [Node.pieces, Comparison.pieces, Comparison.map_text?_listPieces hcs]
      | _ => rfl
  | call hc =>
      cases hc with
      | valued fn f v v' => exact Call.map_text?_pieces fn f v v'
      | closed fn f v v' => exact Call.map_text?_pieces fn f v v'
      | _ => rfl
  | _ => rfl

theorem Node.map_text?_flatMap_pieces {ns ns' : List Node} (h : List.Forall₂ Node.Alike ns ns') :
    (ns.flatMap Node.pieces).map Piece.text? = (ns'.flatMap Node.pieces).map Piece.text? := by
  induction h with
  | nil => rfl
  | cons hn _ ih => simp [hn.pieces, ih]

/-! ### Two filters -/

namespace Whitelist

variable {w : Whitelist}

/-- **No constant influences the text of a predicate.**  If the tokens of two accepted filters
agree except for constants that are not null, their predicates have the same text and as many
arguments. -/
theorem text_eq_of_alike {s s' : String} {ts ts' : List Token} {p p' : Predicate}
    (hs : (w.scan s).toExcept = .ok ts) (hs' : (w.scan s').toExcept = .ok ts')
    (halike : List.Forall₂ w.Alike ts ts') (hp : w.parse (some s) = .ok (some p))
    (hp' : w.parse (some s') = .ok (some p')) :
    p.text = p'.text ∧ p.args.length = p'.args.length := by
  obtain ⟨hblank, us, front, q, back, hus, hread, hfin, rfl⟩ := parse_eq_ok_some_iff.1 hp
  obtain ⟨hblank', us', front', q', back', hus', hread', hfin', rfl⟩ := parse_eq_ok_some_iff.1 hp'
  obtain rfl := Except.ok.inj (hs.symm.trans hus)
  obtain rfl := Except.ok.inj (hs'.symm.trans hus')
  have hinit : Progress.initial.Alike Progress.initial := ⟨rfl, .none⟩
  obtain ⟨hfront, hq⟩ := hinit.reads halike (exists_isA_of_mem_scan hs) (exists_isA_of_mem_scan hs')
    hread hread'
  obtain ⟨last, hlast⟩ := hread.exists_last? (ne_nil_of_not_isBlankText hblank hs)
  obtain ⟨last', hlast'⟩ := hread'.exists_last? (ne_nil_of_not_isBlankText hblank' hs')
  obtain ⟨-, -, -, rfl⟩ := (Progress.toExcept_finish_eq_ok_iff hlast).1 hfin
  obtain ⟨-, -, -, rfl⟩ := (Progress.toExcept_finish_eq_ok_iff hlast').1 hfin'
  have hnodes := List.rel_append hfront (forall₂_toList hq.pending)
  exact Predicate.text_write_eq (Node.map_text?_flatMap_pieces hnodes) rfl rfl

theorem text_eq_of_alike_words_and_literals :
    ∃ p p', people.parse (some "active eq true or name eq 'a'") = .ok (some p) ∧
      people.parse (some "active eq false or name eq 'or 1'") = .ok (some p') ∧ p ≠ p' ∧
      p.text = p'.text ∧ p.args.length = p'.args.length := by
  have hs : (people.scan "active eq true or name eq 'a'").toExcept =
      .ok [⟨.single .field, 0, "active"⟩, ⟨.single .equal, 7, "eq"⟩,
        ⟨.single .trueWord, 10, "true"⟩, ⟨.single .disjunction, 15, "or"⟩,
        ⟨.single .field, 18, "name"⟩, ⟨.single .equal, 23, "eq"⟩,
        ⟨.single .literal, 26, "'a'"⟩] := by
    decide +kernel
  have hs' : (people.scan "active eq false or name eq 'or 1'").toExcept =
      .ok [⟨.single .field, 0, "active"⟩, ⟨.single .equal, 7, "eq"⟩,
        ⟨.single .falseWord, 10, "false"⟩, ⟨.single .disjunction, 16, "or"⟩,
        ⟨.single .field, 19, "name"⟩, ⟨.single .equal, 24, "eq"⟩,
        ⟨.single .literal, 27, "'or 1'"⟩] := by
    decide +kernel
  have hsame : ∀ k i j text, people.Alike ⟨.single k, i, text⟩ ⟨.single k, j, text⟩ :=
    fun _ _ _ _ => .same rfl fun _ => rfl
  have hp : people.parse (some "active eq true or name eq 'a'") =
      .ok (some ⟨"active == @0 || (Person.Name != null && Person.Name.ToUpper() == @1)",
        [.bool (some true), .string (some "A")]⟩) := by
    decide +kernel
  have hp' : people.parse (some "active eq false or name eq 'or 1'") =
      .ok (some ⟨"active == @0 || (Person.Name != null && Person.Name.ToUpper() == @1)",
        [.bool (some false), .string (some "OR 1")]⟩) := by
    decide +kernel
  refine ⟨_, _, hp, hp', by decide, text_eq_of_alike hs hs' ?_ hp hp'⟩
  exact .cons (hsame _ _ _ _) <| .cons (hsame _ _ _ _) <|
    .cons (.constants rfl rfl (by decide) (by decide)) <| .cons (hsame _ _ _ _) <|
    .cons (hsame _ _ _ _) <| .cons (hsame _ _ _ _) <|
    .cons (.constants rfl rfl (by decide) (by decide)) .nil

end Whitelist

end FilterQuery
