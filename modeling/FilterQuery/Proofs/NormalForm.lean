/-
**The output of an ordering is its normal form.**

Where no field is renamed, the output of an ordering is an ordering again.  It names each field in
the spelling of its registration, and that spelling stands for the field because it has the
lower-case form of the name that was given.  The given name stood between separators and held none,
and lower-casing neither makes nor removes one, so the registered spelling holds none either and is
cut out of the output as one word.  So the output comes to the clauses that it was written for, and
is its own output.

Main definitions:

* `SortTable.Rereads` — a clause whose output is a segment that comes to it.

Main results:

* `SortTable.rereads_of_reads` — where no field is renamed, every clause of an ordering is one;
* `SortTable.parseClauses_renderClauses` — the output of such clauses comes to them;
* `SortTable.parse_normalForm` — **the output of an ordering is its own output, and has the clauses
  of the ordering**.
-/

import FilterQuery.Proofs.Orderings

set_option relaxedAutoImplicit false
set_option autoImplicit false

namespace FilterQuery

open Text

/-! ### Words of segments -/

namespace Text

/-- The words of a text consist of its characters. -/
theorem Spaced.isWord_and_subset {cs w : List Char} {ws : List (List Char)} (h : Spaced cs ws)
    (hw : w ∈ ws) : IsWord w ∧ w ⊆ cs := by
  induction h with
  | blank => exact absurd hw List.not_mem_nil
  | @word before v rest ws _ hv _ _ ih =>
      rcases List.mem_cons.1 hw with rfl | hw
      · exact ⟨hv, fun c hc => List.mem_append_right _ (List.mem_append_left _ hc)⟩
      · obtain ⟨hword, hsub⟩ := ih hw
        exact ⟨hword, fun c hc => List.mem_append_right _ (List.mem_append_right _ (hsub hc))⟩

/-- Commas with a blank behind them are commas, and the blanks belong to what follows. -/
theorem intercalate_comma_blank (l : List Char) (ls : List (List Char)) :
    [',', ' '].intercalate (l :: ls) = [','].intercalate (l :: ls.map (' ' :: ·)) := by
  induction ls generalizing l with
  | nil => rfl
  | cons m ls ih =>
      have hblank : ∀ ks : List (List Char),
          [','].intercalate ((' ' :: m) :: ks) = ' ' :: [','].intercalate (m :: ks) := by
        intro ks
        cases ks with
        | nil => rfl
        | cons k ks => rw [List.intercalate_cons_cons, List.intercalate_cons_cons]; rfl
      rw [List.map_cons, List.intercalate_cons_cons, List.intercalate_cons_cons, ih, hblank]
      simp

end Text

/-! ### Clauses -/

namespace SortTable

variable {table : SortTable} {s t : List Char} {c : SortClause} {clauses : List SortClause}

/-- The words of a segment decide what clause it comes to. -/
theorem reads_of_words_eq (hwords : words s = words t) (h : table.Reads s (.ok c)) :
    table.Reads t (.ok c) := by
  have hspaced : ∀ {ws}, Spaced s ws → Spaced t ws := by
    intro ws hs
    rw [← words_eq_iff_spaced] at hs ⊢
    rw [← hwords, hs]
  cases h with
  | bare hs hf hkey => exact .bare (hspaced hs) hf hkey
  | directed hs hf hkey hd hsupports => exact .directed (hspaced hs) hf hkey hd hsupports

/-- The output of the clause is a segment that comes to it. -/
structure Rereads (table : SortTable) (c : SortClause) : Prop where
  reads : table.Reads c.render.toList (.ok c)
  not_mem : ',' ∉ c.render.toList

/-- A name that finds a field in a segment has the separators of the registered spelling: none. -/
theorem isUnbroken_of_key_eq {name : List Char} {ws : List (List Char)} {f : SortField}
    (hs : Spaced s ws) (hname : name ∈ ws) (hcomma : ',' ∉ s)
    (hkey : f.key = lower (String.ofList name)) : IsUnbroken f.name.toList := by
  obtain ⟨hword, hsub⟩ := hs.isWord_and_subset hname
  have hgiven : IsUnbroken (String.ofList name).toList := by
    rw [String.toList_ofList]
    exact .of_isWord hword fun hc => hcomma (hsub hc)
  exact hgiven.of_lower_eq hkey.symm

/-- Where no field is renamed, a clause that a segment comes to is read from its output again. -/
theorem rereads_of_reads (hplain : ∀ f ∈ table.fields, f.renamed? = none)
    (h : table.Reads s (.ok c)) (hcomma : ',' ∉ s) : table.Rereads c := by
  have htarget : ∀ f ∈ table.fields, f.target = f.name := fun f hf => by
    rw [SortField.target, hplain f hf, Option.getD_none]
  have hself : ∀ f : SortField, f.key = lower (String.ofList f.name.toList) := fun f => by
    rw [String.ofList_toList, SortField.key]
  cases h with
  | @bare name f hs hf hkey =>
      have hname := isUnbroken_of_key_eq hs List.mem_cons_self hcomma hkey
      have hrender : (⟨f.target, none⟩ : SortClause).render.toList = f.name.toList := by
        rw [htarget f hf]
        rfl
      refine ⟨?_, hrender ▸ hname.not_mem⟩
      rw [hrender]
      exact .bare (words_eq_iff_spaced.1 (words_of_isWord hname.isWord)) hf (hself f)
  | @directed name word f d hs hf hkey hd hsupports =>
      have hname := isUnbroken_of_key_eq hs List.mem_cons_self hcomma hkey
      have hdirection : IsUnbroken d.shortName.toList ∧ d.IsWrittenAs d.shortName.toList := by
        cases d <;> exact ⟨⟨by decide, by decide⟩, by decide⟩
      have hrender : (⟨f.target, some d⟩ : SortClause).render.toList =
          f.name.toList ++ ' ' :: d.shortName.toList := by
        rw [htarget f hf, SortClause.render, String.toList_append, String.toList_append,
          List.append_assoc]
        rfl
      have hwords : words (f.name.toList ++ ' ' :: d.shortName.toList) =
          [f.name.toList, d.shortName.toList] := by
        rw [words_append_blank _ _ (by decide), words_of_isWord hname.isWord,
          words_of_isWord hdirection.1.isWord, List.singleton_append]
      refine ⟨?_, ?_⟩
      · rw [hrender]
        exact .directed (words_eq_iff_spaced.1 hwords) hf (hself f) hdirection.2 hsupports
      · rw [hrender, List.mem_append, List.mem_cons]
        rintro (hc | hc | hc)
        · exact hname.not_mem hc
        · contradiction
        · exact hdirection.1.not_mem hc

/-! ### Orderings -/

/-- The output of clauses has a blank behind each comma. -/
theorem toList_renderClauses (c : SortClause) (cs : List SortClause) :
    (renderClauses (c :: cs)).toList =
      [','].intercalate (c.render.toList :: cs.map fun d => ' ' :: d.render.toList) := by
  have hmap : (cs.map fun d => ' ' :: d.render.toList) =
      ((cs.map SortClause.render).map String.toList).map (' ' :: ·) := by
    rw [List.map_map, List.map_map]
    rfl
  rw [renderClauses, String.toList_intercalate, List.map_cons, List.map_cons, hmap,
    ← intercalate_comma_blank]
  rfl

/-- The output of clauses that are read again comes to these clauses. -/
theorem parseClauses_renderClauses (hne : clauses ≠ []) (h : ∀ c ∈ clauses, table.Rereads c) :
    table.parseClauses (renderClauses clauses) = .ok clauses := by
  obtain ⟨c, cs, rfl⟩ := List.exists_cons_of_ne_nil hne
  have hsegments : Segments (renderClauses (c :: cs)).toList
      (c.render.toList :: cs.map fun d => ' ' :: d.render.toList) := by
    refine ⟨List.cons_ne_nil _ _, List.forall_mem_cons.2 ⟨?_, fun s hs => ?_⟩,
      (toList_renderClauses c cs).symm⟩
    · exact (h c List.mem_cons_self).not_mem
    · obtain ⟨d, hd, rfl⟩ := List.mem_map.1 hs
      rw [List.mem_cons, not_or]
      exact ⟨by decide, (h d (List.mem_cons_of_mem c hd)).not_mem⟩
  rw [parseClauses_eq_ok_iff, splitOn_eq_iff_segments.2 hsegments, mapM_eq_ok_iff]
  simp only [parseClause_eq_iff]
  refine .cons (h c List.mem_cons_self).reads ?_
  rw [List.forall₂_map_left_iff, List.forall₂_same]
  intro d hd
  exact reads_of_words_eq (words_cons_of_isBlank _ (by decide)).symm
    (h d (List.mem_cons_of_mem c hd)).reads

/-- An ordering of blanks alone has a segment without words. -/
theorem parseClauses_of_isBlank {text : String} (h : IsBlank text.toList) :
    table.parseClauses text = .error (.ordering .emptyClause) := by
  have hcomma : ',' ∉ text.toList := fun hc => absurd (h ',' hc) (by decide)
  have hfault : table.parseClause text.toList = .error .emptyClause :=
    parseClause_eq_iff.2 (.empty (.blank h))
  rw [parseClauses, List.splitOn_eq_singleton hcomma, mapM_cons_eq, hfault]
  rfl

/-- **The output of an ordering is its normal form.**  Where no field is renamed, the output is read
as the clauses of the ordering and is its own output. -/
theorem parse_normalForm {x r : String} (hplain : ∀ f ∈ table.fields, f.renamed? = none)
    (h : table.parse (some x) = .ok (some r)) :
    table.parse (some r) = .ok (some r) ∧ table.parseClauses r = table.parseClauses x := by
  have hx : ¬IsBlank x.toList := by
    intro hblank
    have hmissing : table.parse (some x) = .ok none :=
      parse_eq_ok_none_iff.2 (by rintro text ⟨rfl⟩; exact hblank)
    have hnone : (none : Option String) = some r := Except.ok.inj (hmissing.symm.trans h)
    contradiction
  rw [parse_of_not_isBlank hx] at h
  obtain ⟨clauses, hclauses, hr⟩ := map_eq_ok_iff.1 h
  obtain rfl := Option.some.inj hr
  have hmap := parseClauses_eq_ok_iff.1 hclauses
  have hsegments : Segments x.toList (x.toList.splitOn ',') := splitOn_eq_iff_segments.1 rfl
  have hne : clauses ≠ [] := by
    rintro rfl
    exact hsegments.ne_nil (List.forall₂_nil_right_iff.1 (mapM_eq_ok_iff.1 hmap))
  have hagain : table.parseClauses (renderClauses clauses) = .ok clauses := by
    refine parseClauses_renderClauses hne fun c hc => ?_
    obtain ⟨s, hs, hread⟩ := (mem_iff_of_mapM_eq_ok hmap c).1 hc
    exact rereads_of_reads hplain (parseClause_eq_iff.1 hread) (hsegments.not_mem s hs)
  have hblank : ¬IsBlank (renderClauses clauses).toList := by
    intro hblank
    rw [parseClauses_of_isBlank hblank] at hagain
    contradiction
  refine ⟨?_, hagain.trans hclauses.symm⟩
  rw [parse_of_not_isBlank hblank, hagain]
  rfl

/-- Two fields, the name of one of which ends in a capital sigma. -/
def greek : SortTable :=
  ⟨[⟨"Name", none, true, true⟩, ⟨"ΛΟΓΟΣ", none, true, true⟩], by decide +kernel, none⟩

/-- The small letters of a name, a final sigma among them, are written out as they are registered,
and the output is not changed any more. -/
theorem parse_normalForm_greek :
    (∀ f ∈ greek.fields, f.renamed? = none) ∧
      greek.parse (some "λογος  DESCEND,name") = .ok (some "ΛΟΓΟΣ desc, Name") ∧
      greek.parse (some "ΛΟΓΟΣ desc, Name") = .ok (some "ΛΟΓΟΣ desc, Name") := by
  have hplain : ∀ f ∈ greek.fields, f.renamed? = none := by decide +kernel
  have hparse : greek.parse (some "λογος  DESCEND,name") = .ok (some "ΛΟΓΟΣ desc, Name") := by
    decide +kernel
  exact ⟨hplain, hparse, (parse_normalForm hplain hparse).1⟩

end SortTable

end FilterQuery
