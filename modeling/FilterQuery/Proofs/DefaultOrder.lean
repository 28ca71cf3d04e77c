/-
**The default ordering is put out as it was given.**

A missing ordering is replaced by the default, and the default is not read: it is put out letter for
letter.  What a caller gets who sends the same text is its output, in which fields have their output
names, directions their short names, and clauses one blank between them.  The two agree exactly if
the default is an output already, of clauses each of which is read from its own output again.  So a
default that spells out a direction, or that names a renamed field as callers do, is put out in a
form that no caller ever gets.

Main definitions:

* `SortTable.IsOutput` — the output of clauses that are read from their own output again.

Main results:

* `Text.Segments.of_length_eq` — parts that are as many as the segments of a text are its segments;
* `SortTable.parse_eq_self_iff` — an ordering is its own output exactly if it is such an output;
* `SortTable.parseOrDefault_of_isBlank` — **the default is put out as it was given, and as it would
  be put out for a caller exactly if it is such an output**.
-/

import FilterQuery.Proofs.NormalForm

set_option relaxedAutoImplicit false
set_option autoImplicit false

namespace FilterQuery

open Text

/-! ### As many parts as segments -/

namespace Text

variable {cs : List Char} {parts segments : List (List Char)}

/-- There is one comma less between the parts than there are parts. -/
theorem count_intercalate_comma (hne : parts ≠ []) :
    ([','].intercalate parts).count ',' + 1 = parts.flatten.count ',' + parts.length := by
  induction parts with
  | nil => exact absurd rfl hne
  | cons part parts ih =>
      cases parts with
      | nil => simp
      | cons next parts =>
          have hrest := ih (List.cons_ne_nil _ _)
          rw [List.intercalate_cons_cons, List.count_append, List.count_append,
            List.count_singleton_self, List.flatten_cons, List.count_append, List.length_cons]
          omega

/-- Parts that are as many as the segments of a text and have commas between them hold no further
comma, and so they are the segments. -/
theorem Segments.of_length_eq (h : Segments cs segments) (hparts : [','].intercalate parts = cs)
    (hlength : parts.length = segments.length) : parts = segments := by
  have hne : parts ≠ [] := by
    rintro rfl
    exact h.ne_nil (List.length_eq_zero_iff.1 hlength.symm)
  have hnone : segments.flatten.count ',' = 0 := by
    rw [List.count_eq_zero, List.mem_flatten]
    rintro ⟨s, hs, hcomma⟩
    exact h.not_mem s hs hcomma
  have hcount : parts.flatten.count ',' = 0 := by
    have hcuts := count_intercalate_comma h.ne_nil
    have hgiven := count_intercalate_comma hne
    rw [h.intercalate_eq] at hcuts
    rw [hparts] at hgiven
    omega
  have hcut : Segments cs parts :=
    ⟨hne, fun s hs hcomma => List.count_eq_zero.1 hcount (List.mem_flatten_of_mem hs hcomma),
      hparts⟩
  rw [← splitOn_eq_iff_segments.2 hcut, ← splitOn_eq_iff_segments.2 h]

end Text

/-! ### Orderings that are their own output -/

namespace SortTable

variable {table : SortTable} {d : String} {text? : Option String} {c : SortClause}
  {clauses : List SortClause}

/-- The text is the output of clauses, one at least, that are read from their own output again. -/
def IsOutput (table : SortTable) (d : String) : Prop :=
  ∃ clauses, clauses ≠ [] ∧ (∀ c ∈ clauses, table.Rereads c) ∧ renderClauses clauses = d

/-- Clauses whose output comes to them are read from their own output, each by itself. -/
theorem rereads_of_parseClauses (h : table.parseClauses (renderClauses clauses) = .ok clauses) :
    clauses ≠ [] ∧ ∀ c ∈ clauses, table.Rereads c := by
  have hmap := mapM_eq_ok_iff.1 (parseClauses_eq_ok_iff.1 h)
  simp only [parseClause_eq_iff] at hmap
  have hcut : Segments (renderClauses clauses).toList
      ((renderClauses clauses).toList.splitOn ',') := splitOn_eq_iff_segments.1 rfl
  cases clauses with
  | nil => exact absurd (List.forall₂_nil_right_iff.1 hmap) hcut.ne_nil
  | cons c cs =>
      have hparts := hcut.of_length_eq (toList_renderClauses c cs).symm (by
        rw [hmap.length_eq, List.length_cons, List.length_cons, List.length_map])
      have hcomma := hcut.not_mem
      rw [← hparts, List.forall_mem_cons] at hcomma
      rw [← hparts, List.forall₂_cons, List.forall₂_map_left_iff, List.forall₂_same] at hmap
      refine ⟨List.cons_ne_nil _ _, List.forall_mem_cons.2 ⟨⟨hmap.1, hcomma.1⟩, fun e he => ?_⟩⟩
      have hnot := hcomma.2 _ (List.mem_map_of_mem he)
      exact ⟨reads_of_words_eq (words_cons_of_isBlank _ (by decide)) (hmap.2 e he),
        fun hc => hnot (List.mem_cons_of_mem _ hc)⟩

/-- Clauses that are read from their own output again have an output that is not blank. -/
theorem not_isBlank_renderClauses (hne : clauses ≠ []) (h : ∀ c ∈ clauses, table.Rereads c) :
    ¬IsBlank (renderClauses clauses).toList := by
  intro hblank
  have hread := parseClauses_renderClauses hne h
  rw [parseClauses_of_isBlank hblank] at hread
  contradiction

/-- An ordering is its own output exactly if it is the output of clauses that are read from their
own output again. -/
theorem parse_eq_self_iff : table.parse (some d) = .ok (some d) ↔ table.IsOutput d := by
  rw [parse_eq_ok_some_iff]
  constructor
  · rintro ⟨-, clauses, hclauses, rfl⟩
    obtain ⟨hne, hrereads⟩ := rereads_of_parseClauses hclauses
    exact ⟨clauses, hne, hrereads, rfl⟩
  · rintro ⟨clauses, hne, hrereads, rfl⟩
    exact ⟨not_isBlank_renderClauses hne hrereads, clauses,
      parseClauses_renderClauses hne hrereads, rfl⟩

/-- **The default ordering is put out as it was given.**  For a missing or blank ordering the output
is the text of the default, whatever fields and directions it names.  It is what the same text comes
to for a caller exactly if it is the output of clauses that are read from their own output again. -/
theorem parseOrDefault_of_isBlank (hdefault : table.default? = some d)
    (hblank : ∀ text ∈ text?, IsBlank text.toList) :
    table.parseOrDefault text? = .ok (some d) ∧
      (table.parseOrDefault text? = table.parse (some d) ↔ table.IsOutput d) := by
  have hput : table.parseOrDefault text? = .ok (some d) := by
    rw [parseOrDefault, parse_eq_ok_none_iff.2 hblank, hdefault]
    rfl
  rw [← parse_eq_self_iff, hput]
  exact ⟨rfl, eq_comm⟩

/-- A renamed field, and a default that names it as callers do and spells out its direction. -/
def articles : SortTable :=
  ⟨[⟨"created", some "CreatedAt", true, true⟩], by decide +kernel, some "created DESCENDING"⟩

/-- The default is put out with the name and the direction as they were given, and it is no
output. -/
theorem parseOrDefault_of_isBlank_articles :
    articles.default? = some "created DESCENDING" ∧
      (∀ text ∈ some " \t", IsBlank text.toList) ∧
      articles.parse (some "created DESCENDING") = .ok (some "CreatedAt desc") ∧
      articles.parseOrDefault (some " \t") = .ok (some "created DESCENDING") ∧
      ¬articles.IsOutput "created DESCENDING" := by
  have hparse : articles.parse (some "created DESCENDING") = .ok (some "CreatedAt desc") := by
    decide +kernel
  have hblank : ∀ text ∈ some " \t", IsBlank text.toList := by
    rintro text ⟨rfl⟩
    decide
  have hdefault : articles.default? = some "created DESCENDING" := rfl
  obtain ⟨hput, hiff⟩ := parseOrDefault_of_isBlank hdefault hblank
  refine ⟨hdefault, hblank, hparse, hput, fun houtput => ?_⟩
  rw [← hiff, hput, hparse] at houtput
  exact absurd houtput (by decide)

/-- A default is not put out as it would be for a caller who sends the same text. -/
theorem parseOrDefault_ne_parse_default :
    ¬∀ (table : SortTable) (d r : String) (text? : Option String), table.default? = some d →
      table.parse (some d) = .ok (some r) → (∀ text ∈ text?, IsBlank text.toList) →
      table.parseOrDefault text? = .ok (some r) := by
  intro h
  have hput := h articles "created DESCENDING" "CreatedAt desc" none rfl (by decide +kernel) nofun
  have hgiven : articles.parseOrDefault none = .ok (some "created DESCENDING") := rfl
  rw [hgiven] at hput
  exact absurd hput (by decide)

end SortTable

end FilterQuery
