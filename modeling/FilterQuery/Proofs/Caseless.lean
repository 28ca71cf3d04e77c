/-
**Classes of characters that lower-casing keeps.**

Names are looked up in lower case.  A class of characters that has no letters holds a character and
its lower-case form together or not at all, so what a text says about the class can be read off its
lower-case form.  Where a class is given by ranges of code points this is a check on the runs of the
case table: no range may meet a run or the place that the run is moved to.

Main definitions:

* `Text.IsCaseless` — a class that holds a character and its lower-case form or neither;
* `Text.CaseRun.Avoids` — a run that does not meet a range, moved or not.

Main results:

* `Text.isCaseless_inRanges` — classes of ranges that no run meets are caseless;
* `Text.IsCaseless.any_lowerAfter`, `Text.IsCaseless.head?_any_lowerAfter` — lower-casing neither
  makes nor removes a member of the class, in a text and at its start;
* `Text.lowerAfter_eq_nil_iff` — no text disappears in lower case.
-/

import FilterQuery.Proofs.LetterCase

set_option relaxedAutoImplicit false
set_option autoImplicit false

namespace FilterQuery

namespace Text

/-! ### Classes -/

/-- The class holds a character and its lower-case form or neither. -/
structure IsCaseless (p : Char → Bool) : Prop where
  lowerChar : ∀ c, ∀ d ∈ lowerChar c, p d = p c
  finalSigma : p 'ς' = p 'Σ'

/-- The run lies outside the range, before it is moved and after. -/
def CaseRun.Avoids (r : CaseRun) (range : Nat × Nat) : Prop :=
  (r.last < range.1 ∨ range.2 < r.first) ∧
    ((r.last + r.shift).toNat < range.1 ∨ range.2 < (r.first + r.shift).toNat)

instance (r : CaseRun) (range : Nat × Nat) : Decidable (r.Avoids range) :=
  inferInstanceAs (Decidable (_ ∧ _))

section Runs

variable {r : CaseRun} {range : Nat × Nat} {ranges : List (Nat × Nat)} {n m : Nat}

theorem CaseRun.Avoids.map? (h : r.Avoids range) (hm : r.map? n = some m) :
    (n < range.1 ∨ range.2 < n) ∧ (m < range.1 ∨ range.2 < m) := by
  unfold CaseRun.map? at hm
  split at hm
  · obtain ⟨hsource, htarget⟩ := h
    obtain rfl := Option.some.inj hm
    omega
  · contradiction

theorem CaseRun.lt_of_map? {bound : Nat} (h : (r.last + r.shift).toNat < bound)
    (hm : r.map? n = some m) : m < bound := by
  unfold CaseRun.map? at hm
  split at hm
  · obtain rfl := Option.some.inj hm
    omega
  · contradiction

/-- Outside the runs a code point is its own lower-case form. -/
theorem mapRuns_eq_or (n : Nat) :
    mapRuns lowerRuns n = n ∨ ∃ r ∈ lowerRuns, r.map? n = some (mapRuns lowerRuns n) := by
  unfold mapRuns
  cases hfind : lowerRuns.findSome? (CaseRun.map? · n) with
  | none => exact .inl rfl
  | some m => exact .inr (List.exists_of_findSome?_eq_some hfind)

theorem inRanges_mapRuns (hruns : ∀ r ∈ lowerRuns, ∀ range ∈ ranges, r.Avoids range) (n : Nat) :
    inRanges ranges (mapRuns lowerRuns n) = inRanges ranges n := by
  rcases mapRuns_eq_or n with hself | ⟨r, hr, hm⟩
  · rw [hself]
  · have houtside : ∀ k, (∀ range ∈ ranges, k < range.1 ∨ range.2 < k) →
        inRanges ranges k = false := by
      intro k hk
      rw [Bool.eq_false_iff, ne_eq, inRanges_iff]
      rintro ⟨range, hrange, hlow, hhigh⟩
      have hout := hk range hrange
      omega
    rw [houtside _ fun range hrange => ((hruns r hr range hrange).map? hm).2,
      houtside _ fun range hrange => ((hruns r hr range hrange).map? hm).1]

/-- The lower-case form of a code point is a code point: no run is moved into the surrogates or
beyond the last plane. -/
theorem toNat_ofNat_mapRuns (c : Char) :
    (Char.ofNat (mapRuns lowerRuns c.toNat)).toNat = mapRuns lowerRuns c.toNat := by
  have hruns : ∀ r ∈ lowerRuns, r.Avoids (0xd800, 0xdfff) ∧
      (r.last + r.shift).toNat < 0x110000 := by decide +kernel
  have hvalid : (mapRuns lowerRuns c.toNat).isValidChar := by
    rcases mapRuns_eq_or c.toNat with hself | ⟨r, hr, hm⟩
    · rw [hself]
      exact c.valid
    · obtain ⟨havoids, hbound⟩ := hruns r hr
      have hlt := CaseRun.lt_of_map? hbound hm
      rcases (havoids.map? hm).2 with hlow | hhigh
      · exact .inl hlow
      · exact .inr ⟨hhigh, hlt⟩
  rw [Char.ofNat, dif_pos hvalid]
  rfl

/-- A class of ranges without letters is caseless if no run meets a range.  Two characters are not
in the runs: the capital sigma, and the dotted capital i with its two characters. -/
theorem isCaseless_inRanges (hletters : IgnoresCase fun c => inRanges ranges c.toNat)
    (hexceptions : ['İ', 'i', '\u0307', 'Σ', 'ς'].any (fun c => inRanges ranges c.toNat) = false)
    (hruns : ∀ r ∈ lowerRuns, ∀ range ∈ ranges, r.Avoids range) :
    IsCaseless fun c => inRanges ranges c.toNat := by
  simp only [List.any_cons, List.any_nil, Bool.or_false, Bool.or_eq_false_iff] at hexceptions
  obtain ⟨hdotted, hi, hdot, hsigma, hfinal⟩ := hexceptions
  refine ⟨fun c d hd => ?_, hfinal.trans hsigma.symm⟩
  unfold Text.lowerChar at hd
  split at hd
  · rw [List.mem_singleton.1 hd]
    exact hletters c
  split at hd
  · next hc =>
      rw [hc, hdotted]
      rcases List.mem_cons.1 hd with rfl | hd
      · exact hi
      · rw [List.mem_singleton.1 hd, hdot]
  · rw [List.mem_singleton.1 hd, toNat_ofNat_mapRuns, inRanges_mapRuns hruns]

end Runs

/-! ### Texts -/

theorem lowerChar_ne_nil (c : Char) : lowerChar c ≠ [] := by
  unfold lowerChar
  split
  · simp
  · split <;> simp

namespace IsCaseless

variable {p : Char → Bool}

/-- The first character of a text becomes one or two characters that are in the class if it is. -/
theorem exists_lowerAfter_cons (h : IsCaseless p) (before : List Char) (c : Char)
    (cs : List Char) : ∃ d ds, (∀ e ∈ d :: ds, p e = p c) ∧
      lowerAfter before (c :: cs) = d :: (ds ++ lowerAfter (c :: before) cs) := by
  rw [lowerAfter]
  split
  · next hsigma =>
      rw [hsigma]
      split
      · exact ⟨'ς', [], by simpa using h.finalSigma, rfl⟩
      · exact ⟨'σ', [], by simpa using h.lowerChar 'Σ' 'σ' (by decide +kernel), rfl⟩
  · obtain ⟨d, ds, hd⟩ := List.exists_cons_of_ne_nil (lowerChar_ne_nil c)
    exact ⟨d, ds, hd ▸ h.lowerChar c, by rw [hd, List.cons_append]⟩

/-- Lower-casing neither makes nor removes a member of the class. -/
theorem any_lowerAfter (h : IsCaseless p) (before cs : List Char) :
    (lowerAfter before cs).any p = cs.any p := by
  induction cs generalizing before with
  | nil => rfl
  | cons c cs ih =>
      obtain ⟨d, ds, hclass, heq⟩ := h.exists_lowerAfter_cons before c cs
      have hds : (d :: ds).any p = p c := by
        rw [Bool.eq_iff_iff, List.any_eq_true]
        constructor
        · rintro ⟨e, he, hpe⟩
          rwa [← hclass e he]
        · intro hpc
          exact ⟨d, List.mem_cons_self, by rwa [hclass d List.mem_cons_self]⟩
      rw [heq, ← List.cons_append, List.any_append, hds, ih, List.any_cons]

/-- Lower-casing neither makes nor removes a member of the class at the start of a text. -/
theorem head?_any_lowerAfter (h : IsCaseless p) (before cs : List Char) :
    (lowerAfter before cs).head?.any p = cs.head?.any p := by
  cases cs with
  | nil => rfl
  | cons c cs =>
      obtain ⟨d, ds, hclass, heq⟩ := h.exists_lowerAfter_cons before c cs
      rw [heq]
      exact hclass d List.mem_cons_self

end IsCaseless

/-- No text disappears in lower case. -/
theorem lowerAfter_eq_nil_iff (before : List Char) {cs : List Char} :
    lowerAfter before cs = [] ↔ cs = [] := by
  have heverything : IsCaseless fun _ => true := ⟨fun _ _ _ => rfl, rfl⟩
  have hhead := heverything.head?_any_lowerAfter before cs
  rw [← List.head?_eq_none_iff, ← List.head?_eq_none_iff]
  cases hlower : (lowerAfter before cs).head? <;> cases hcs : cs.head? <;> simp_all

end Text

end FilterQuery
