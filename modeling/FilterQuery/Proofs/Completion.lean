/-
**There are no dead ends: what has been read can be completed.**

A text that cannot become a filter any more is refused at once and not at its end.  This holds where
the fields have plain names and can be compared at all, and every function has a field: the tokens
that have been read can then be completed to a filter at any time.  A pending node takes what it
still needs, an expression is supplied where one is expected, and the open parentheses are closed.
What is supplied can be written down behind the text.

Main definitions:

* `Whitelist.IsUsable` — what is asked of the registered fields;
* `Whitelist.Completes` — tokens to which others can be added that can be written down.

Main results:

* `Comparison.Spells.completes`, `Call.Spells.completes` — a node can be completed;
* `Whitelist.Leads.completes` — open parentheses can be closed;
* `Progress.Spells.completes` — the tokens of every state can be completed;
* `Whitelist.exists_completion` — **what has been read can be completed**.
-/

import FilterQuery.Proofs.Attribution
import FilterQuery.Proofs.Vocabulary

set_option relaxedAutoImplicit false
set_option autoImplicit false

namespace FilterQuery

/-- There are fields, their names are plain, their texts are converted as usual, each of them can
stand alone or be compared, and every string function can be applied to one of them. -/
structure Whitelist.IsUsable (w : Whitelist) : Prop where
  ne_nil : w.fields ≠ []
  isIdentifier : ∀ f ∈ w.fields, IsIdentifier f.name
  convert_eq : ∀ f ∈ w.fields, f.convert = Value.read? f.type
  exists_operator : ∀ f ∈ w.fields, f.type.isBoolean = false →
    ∃ k ∈ KindSet.comparison, k ∈ f.supported
  exists_field : ∀ k ∈ KindSet.stringFunction, ∃ f ∈ w.fields, k ∈ f.supported

/-- Further tokens that can be written down make an expression or a filter of the tokens. -/
def Whitelist.Completes (w : Whitelist) (κ : Category) (ts : List Token) : Prop :=
  ∃ us φ, (∀ u ∈ us, w.StandsAlone u) ∧ w.Derives κ φ (ts ++ us)

section Completions

variable {w : Whitelist} {κ : Category} {φ : Formula} {f : Field} {depth : Nat}
  {ts us : List Token} {t : Token}

theorem Whitelist.Derives.completes (h : w.Derives κ φ ts) : w.Completes κ ts :=
  ⟨[], φ, by simp, by simpa using h⟩

theorem Whitelist.Completes.of_append (h : w.Completes κ (ts ++ us))
    (hus : ∀ u ∈ us, w.StandsAlone u) : w.Completes κ ts := by
  obtain ⟨vs, φ, hvs, hφ⟩ := h
  refine ⟨us ++ vs, φ, ?_, by simpa using hφ⟩
  intro v hv
  rcases List.mem_append.1 hv with hv | hv
  · exact hus v hv
  · exact hvs v hv

theorem Whitelist.Completes.of_token (h : w.Completes κ (ts ++ [t])) (ht : w.StandsAlone t) :
    w.Completes κ ts :=
  h.of_append (by simpa using ht)

/-! ### Comparisons -/

namespace Comparison

variable {c d : Comparison} {cs : List Constant}

theorem Spells.completes_of_isComplete (h : c.Spells w us) (hc : c.isComplete = true) :
    w.Completes .expression us := by
  obtain ⟨φ, hφ⟩ := h.exists_derives hc
  exact hφ.completes

/-- A list is closed behind a constant. -/
theorem Spells.completes_separator (h : Spells w (.listed f cs .separator) us) :
    w.Completes .expression us := by
  have hclosed := h.step (.close (Token.isA_mark .closeParen))
  exact (hclosed.completes_of_isComplete rfl).of_token (Whitelist.standsAlone_mark (by decide))

/-- A list goes on with a constant. -/
theorem Spells.completes_item (hw : w.IsUsable) (hf : f ∈ w.fields)
    (h : Spells w (.listed f cs .item) us) : w.Completes .expression us := by
  obtain ⟨v, hv⟩ := Field.exists_admits_sample (hw.convert_eq f hf) true
  have hitem := h.step (.item hv)
  exact hitem.completes_separator.of_token (Whitelist.standsAlone_sample hw.isIdentifier f.type)

/-- A list is opened behind its operator. -/
theorem Spells.completes_opening (hw : w.IsUsable) (hf : f ∈ w.fields)
    (h : Spells w (.listed f cs .opening) us) : w.Completes .expression us := by
  have hopen := h.step (.opening (Token.isA_mark .openParen))
  exact (hopen.completes_item hw hf).of_token (Whitelist.standsAlone_mark (by decide))

/-- A constant follows an operator. -/
theorem Spells.completes_operated (hw : w.IsUsable) (hf : f ∈ w.fields) {op : KindSet}
    (h : Spells w (.operated f op) us) : w.Completes .expression us := by
  obtain ⟨v, hv⟩ := Field.exists_admits_sample (hw.convert_eq f hf) (KindSet.equality.covers op)
  have hcompared := h.step (.constant hv)
  exact (hcompared.completes_of_isComplete rfl).of_token
    (Whitelist.standsAlone_sample hw.isIdentifier f.type)

/-- A field that cannot stand alone is followed by an operator. -/
theorem Spells.completes_named (hw : w.IsUsable) (hf : f ∈ w.fields)
    (hb : f.type.isBoolean = false) (h : Spells w (.named f) us) :
    w.Completes .expression us := by
  obtain ⟨k, hcmp, hsup⟩ := hw.exists_operator f hf hb
  have halone : w.StandsAlone (Token.mark k) := by
    apply Whitelist.standsAlone_mark
    revert hcmp
    cases k <;> decide
  by_cases hm : k = .memberOf
  · subst hm
    have hlist := h.step (.membership (.inr rfl) (Token.isA_mark .memberOf) hsup)
    exact (hlist.completes_opening hw hf).of_token halone
  · have hoperated := h.step (.operator (.inr rfl) (Token.isA_mark k) hcmp hm hsup)
    exact (hoperated.completes_operated hw hf).of_token halone

/-- A comparison starts with any field. -/
theorem completes_blank (hw : w.IsUsable) : w.Completes .expression [] := by
  obtain ⟨f, fields, hfields⟩ := List.exists_cons_of_ne_nil hw.ne_nil
  have hf : f ∈ w.fields := by simp [hfields]
  have hnames := Whitelist.names_mention hf
  have halone := Whitelist.standsAlone_mention (w := w) (hw.isIdentifier f hf)
  have hcompletes : w.Completes .expression ([] ++ [f.mention]) := by
    cases hb : f.type.isBoolean with
    | false => exact (Spells.blank.step (.named hnames hb)).completes_named hw hf hb
    | true => exact (Spells.blank.step (.flag hnames hb)).completes_of_isComplete rfl
  exact hcompletes.of_token halone

/-- A comparison can be completed. -/
theorem Spells.completes (hw : w.IsUsable) (h : c.Spells w us) : w.Completes .expression us := by
  have hspells := h
  cases hspells with
  | blank => exact completes_blank hw
  | flag _ _ => exact h.completes_of_isComplete rfl
  | named hf hb => exact h.completes_named hw (Whitelist.mem_fields_of_names hf) hb
  | operated hf _ _ _ _ => exact h.completes_operated hw (Whitelist.mem_fields_of_names hf)
  | compared _ _ _ _ _ _ => exact h.completes_of_isComplete rfl
  | opening hf _ _ => exact h.completes_opening hw (Whitelist.mem_fields_of_names hf)
  | first hf _ _ _ => exact h.completes_item hw (Whitelist.mem_fields_of_names hf)
  | separator _ _ _ _ _ => exact h.completes_separator
  | item hf _ _ _ _ _ => exact h.completes_item hw (Whitelist.mem_fields_of_names hf)
  | closed _ _ _ _ _ _ => exact h.completes_of_isComplete rfl

end Comparison

/-! ### Calls -/

namespace Call

variable {c : Call} {fn : KindSet} {k : Kind} {v : Value}

theorem Spells.completes_of_isComplete (h : c.Spells w us) (hc : c.isComplete = true) :
    w.Completes .expression us := by
  obtain ⟨φ, hφ⟩ := h.exists_derives hc
  exact hφ.completes

theorem Spells.completes_valued (h : Spells w (.valued fn f v) us) :
    w.Completes .expression us := by
  have hclosed := h.step (.close (Token.isA_mark .closeParen))
  exact (hclosed.completes_of_isComplete rfl).of_token (Whitelist.standsAlone_mark (by decide))

theorem Spells.completes_separated (hw : w.IsUsable) (hf : f ∈ w.fields)
    (h : Spells w (.separated fn f) us) : w.Completes .expression us := by
  obtain ⟨v, hv⟩ := Field.exists_admits_sample (hw.convert_eq f hf) false
  have hvalued := h.step (.value hv)
  exact hvalued.completes_valued.of_token (Whitelist.standsAlone_sample hw.isIdentifier f.type)

theorem Spells.completes_fielded (hw : w.IsUsable) (hf : f ∈ w.fields)
    (h : Spells w (.fielded fn f) us) : w.Completes .expression us := by
  have hseparated := h.step (.comma (Token.isA_mark .comma))
  exact (hseparated.completes_separated hw hf).of_token (Whitelist.standsAlone_mark (by decide))

/-- A function is applied to a field that supports it. -/
theorem Spells.completes_opened (hw : w.IsUsable) (hk : k ∈ KindSet.stringFunction)
    (h : Spells w (.opened (.single k)) us) : w.Completes .expression us := by
  obtain ⟨f, hf, hsup⟩ := hw.exists_field k hk
  have hfielded := h.step (.field (Whitelist.names_mention hf) (KindSet.covers_single.2 hsup))
  exact (hfielded.completes_fielded hw hf).of_token
    (Whitelist.standsAlone_mention (hw.isIdentifier f hf))

theorem Spells.completes_named (hw : w.IsUsable) (hk : k ∈ KindSet.stringFunction)
    (h : Spells w (.named (.single k)) us) : w.Completes .expression us := by
  have hopened := h.step (.opening (Token.isA_mark .openParen))
  exact (hopened.completes_opened hw hk).of_token (Whitelist.standsAlone_mark (by decide))

/-- A call can be completed. -/
theorem Spells.completes (hw : w.IsUsable) (h : c.Spells w us) : w.Completes .expression us := by
  have hspells := h
  cases hspells with
  | blank => exact Comparison.completes_blank hw
  | named _ hk => exact h.completes_named hw hk
  | opened _ hk _ => exact h.completes_opened hw hk
  | fielded _ _ _ hf _ => exact h.completes_fielded hw (Whitelist.mem_fields_of_names hf)
  | separated _ _ _ hf _ _ => exact h.completes_separated hw (Whitelist.mem_fields_of_names hf)
  | valued _ _ _ _ _ _ _ => exact h.completes_valued
  | closed _ _ _ _ _ _ _ _ => exact h.completes_of_isComplete rfl

end Call

/-! ### Filters -/

/-- Behind an expression the open parentheses are closed. -/
theorem Whitelist.Leads.completes_of_derives (hlead : w.Leads depth ts)
    (hφ : w.Derives .expression φ us) : w.Completes .filter (ts ++ us) := by
  induction depth generalizing ts us φ with
  | zero =>
      obtain ⟨ψ, hψ⟩ := hlead.exists_derives (.single hφ)
      exact hψ.completes
  | succ depth ih =>
      obtain ⟨vs, xs, ψ, heq, hlead', hψ⟩ := hlead.close (.single hφ) (Token.isA_mark .closeParen)
      have hclosed := ih hlead' hψ
      rw [← heq] at hclosed
      exact hclosed.of_token (standsAlone_mark (by decide))

/-- What can be completed to an expression can be completed to a filter where one is expected. -/
theorem Whitelist.Leads.completes (hlead : w.Leads depth ts) (h : w.Completes .expression us) :
    w.Completes .filter (ts ++ us) := by
  obtain ⟨vs, φ, hvs, hφ⟩ := h
  have hfilter := hlead.completes_of_derives hφ
  rw [← List.append_assoc] at hfilter
  exact hfilter.of_append hvs

/-- The tokens of every state can be completed to a filter. -/
theorem Progress.Spells.completes {p : Progress} (hw : w.IsUsable) (h : p.Spells w ts) :
    w.Completes .filter ts := by
  have hexpression := Comparison.completes_blank hw
  cases h with
  | expecting _ hlead => simpa using hlead.completes hexpression
  | @negated depth kinds last? ts t hlead hnot =>
      have hopened := hlead.negation hnot (Token.isA_mark .openParen)
      have hfilter := hopened.completes hexpression
      rw [List.append_nil] at hfilter
      exact hfilter.of_token (Whitelist.standsAlone_mark (by decide))
  | comparison hlead hc => exact hlead.completes (hc.completes hw)
  | call hlead hc => exact hlead.completes (hc.completes hw)
  | closed hlead hφ => exact hlead.completes hφ.completes

end Completions

/-! ### Texts -/

namespace Whitelist

variable {w : Whitelist} {f : String} {ts us : List Token}

/-- Tokens that can be written down are read behind a text that is read to its end. -/
theorem scan_append_intercalate (hclosed : (w.scan f).refusal? = none)
    (hus : ∀ u ∈ us, w.StandsAlone u) :
    w.scan (f ++ " " ++ " ".intercalate (us.map Token.text)) =
      ⟨(w.scan f).items ++ Token.spacedFrom (f.utf8ByteSize + 1) us, none⟩ := by
  have hscan : w.scan f = ⟨(w.scan f).items, none⟩ := by rw [← hclosed]
  have hfront := (scan_eq_closed_iff.1 hscan).extend (d := ' ') (by decide)
    (" ".intercalate (us.map Token.text)).toList
  have hback := tiles_intercalate (w := w) (f.utf8ByteSize + ' '.utf8Size) hus
  have htiles := hfront.append (.blank (by decide) hback)
  refine scan_eq_closed_iff.2 ?_
  have htext : (f ++ " " ++ " ".intercalate (us.map Token.text)).toList =
      f.toList ++ ' ' :: (" ".intercalate (us.map Token.text)).toList := by
    simp
  rw [htext, String.utf8ByteSize_append, String.utf8ByteSize_append]
  exact htiles

/-- A text whose tokens are those of a filter, in any positions, is accepted. -/
theorem exists_parse_of_derives {φ : Formula} (hφ : w.Derives .filter φ ts)
    (hscan : w.scan f = ⟨us, none⟩)
    (hus : List.Forall₂ (fun t u => t.kinds = u.kinds ∧ t.text = u.text) ts us) :
    ∃ pr, w.parse (some f) = .ok (some pr) := by
  have hmirrors : List.Forall₂ (Token.Mirrors w .unplaced) ts us :=
    hus.imp fun t u htu => .of_text_eq htu.1 htu.2
  obtain ⟨front, q, back, hread, hfinish, -⟩ := exists_reads_of_derives hφ
  obtain ⟨hnone, -⟩ := Yield.toExcept_eq_ok_iff.1
    (Progress.toExcept_run_eq_ok_iff.2 ⟨rfl, front, q, back, hread, hfinish, rfl⟩)
  have hstart : Progress.initial.Mirrors w .unplaced Progress.initial := .of_empty _ .initial
  have hrefusal := (hstart.run hmirrors .none).refusal
  rw [hnone] at hrefusal
  rw [accepts_iff_refusal?_eq_none, nodes, hscan]
  refine ⟨?_, ?_⟩
  · rw [← Bool.not_eq_true, ← toExcept_scan_eq_ok_nil_iff (w := w), hscan]
    intro hnil
    obtain rfl : us = [] := Except.ok.inj hnil
    cases hus
    exact ne_nil_of_derives hφ rfl
  · generalize (Progress.initial.run w none us).refusal? = r? at hrefusal
    cases hrefusal
    rfl

/-- **What has been read can be completed.**  If the whitelist is usable and all tokens of a text
have been read, be they a filter or not, then some text behind it makes a filter of it. -/
theorem exists_completion (hw : w.IsUsable) (hclosed : (w.scan f).refusal? = none)
    (hread : ∃ ns q, Progress.initial.Reads w (w.scan f).items ns q) :
    ∃ s pr, w.parse (some (f ++ " " ++ s)) = .ok (some pr) := by
  obtain ⟨ns, q, hread⟩ := hread
  have hq := hread.spells (exists_isA_of_mem_scanFrom w 0 f.toList)
  obtain ⟨us, φ, hus, hφ⟩ := hq.completes hw
  refine ⟨" ".intercalate (us.map Token.text), ?_⟩
  refine exists_parse_of_derives hφ (scan_append_intercalate hclosed hus) ?_
  refine List.rel_append ?_ (Token.forall₂_spacedFrom _ us)
  exact List.forall₂_same.2 fun _ _ => ⟨rfl, rfl⟩

/-- All tokens of a text that is refused for a missing end have been read. -/
theorem exists_reads_of_incomplete {text : String} {start : Nat}
    (h : (w.nodes f).refusal? = some (.incomplete text start)) :
    (w.scan f).refusal? = none ∧ ∃ ns q, Progress.initial.Reads w (w.scan f).items ns q := by
  cases blames_of_refusal h with
  | token _ _ _ _ hrefuses => nomatch hrefuses
  | incomplete hclosed _ _ hread _ => exact ⟨hclosed, _, _, hread⟩

theorem isUsable_people : people.IsUsable where
  ne_nil := by decide
  isIdentifier := by
    have hnames : ∀ name ∈ people.fields.map Field.name, IsIdentifier name := by
      simp only [people, List.map_cons, List.map_nil, List.forall_mem_cons]
      refine ⟨⟨?_, ?_, ?_, ?_⟩, ⟨?_, ?_, ?_, ?_⟩, ⟨?_, ?_, ?_, ?_⟩, by simp⟩ <;> decide +kernel
    exact fun f hf => hnames _ (List.mem_map_of_mem hf)
  convert_eq := by
    simp only [people, List.forall_mem_cons]
    exact ⟨rfl, rfl, rfl, by simp⟩
  exists_operator := by
    have hequal : ∀ f ∈ people.fields, .equal ∈ f.supported := by decide
    exact fun f hf _ => ⟨.equal, by decide, hequal f hf⟩
  exists_field := by
    intro k hk
    exact ⟨_, List.mem_cons_self, KindSet.mem_union.2 (.inr hk)⟩

/-- A call inside parentheses behind a negation, left behind its comma. -/
theorem exists_completion_open_call :
    people.IsUsable ∧
      (people.nodes "not ((active or startswith(name,").refusal? = some (.incomplete "," 31) ∧
      ∃ s pr, people.parse (some ("not ((active or startswith(name," ++ " " ++ s)) =
        .ok (some pr) := by
  have h : (people.nodes "not ((active or startswith(name,").refusal? =
      some (.incomplete "," 31) := by
    decide +kernel
  obtain ⟨hclosed, hread⟩ := exists_reads_of_incomplete h
  exact ⟨isUsable_people, h, exists_completion isUsable_people hclosed hread⟩

end Whitelist

end FilterQuery
