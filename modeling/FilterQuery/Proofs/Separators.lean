/-
**Segments, words and what separates them.**

An ordering is cut at its commas, and a segment of it at its blanks.  Cutting loses nothing: the
segments are the only texts without a comma that give the text when commas are put between them,
and the words are the only texts without a blank that stand in the segment with blanks around them.
Names are looked up in lower case, so it matters that a text and its lower-case form have separators
together or not at all.

Main definitions:

* `Text.Segments` — the parts of a text between its commas;
* `Text.Spaced` — the words of a text, with blanks around them;
* `Text.IsCore` — a text without its outer blanks;
* `Text.isSeparator`, `Text.IsUnbroken` — commas and blanks, and texts without them.

Main results:

* `Text.splitOn_eq_iff_segments`, `Text.words_eq_iff_spaced`, `Text.trim_eq_iff_isCore` — cutting
  and trimming find these parts and no others;
* `Text.isCaseless_isSeparator` — lower-casing neither makes nor removes a separator.
-/

import FilterQuery.Proofs.Caseless
import FilterQuery.Text.Blank

set_option relaxedAutoImplicit false
set_option autoImplicit false

namespace FilterQuery

namespace Text

/-! ### Segments -/

/-- The parts of a text between its commas, one at least. -/
structure Segments (cs : List Char) (segments : List (List Char)) : Prop where
  ne_nil : segments ≠ []
  not_mem : ∀ s ∈ segments, ',' ∉ s
  intercalate_eq : [','].intercalate segments = cs

theorem not_mem_of_mem_splitOn {cs s : List Char} {c : Char} (h : s ∈ cs.splitOn c) : c ∉ s := by
  induction cs generalizing s with
  | nil =>
      rw [List.splitOn_nil, List.mem_singleton] at h
      rw [h]
      exact List.not_mem_nil
  | cons d cs ih =>
      rw [List.splitOn_cons_eq_if_modifyHead] at h
      split at h
      · rcases List.mem_cons.1 h with rfl | h
        · exact List.not_mem_nil
        · exact ih h
      · next hd =>
          obtain ⟨t, ts, hts⟩ := List.exists_cons_of_ne_nil (List.splitOn_ne_nil c cs)
          rw [hts] at h ih
          rcases List.mem_cons.1 h with rfl | h
          · simp only [List.mem_cons, not_or]
            exact ⟨fun hc => hd (by rw [hc, beq_self_eq_true]), ih List.mem_cons_self⟩
          · exact ih (List.mem_cons_of_mem t h)

/-- Cutting at the commas gives the segments and nothing else. -/
theorem splitOn_eq_iff_segments {cs : List Char} {segments : List (List Char)} :
    cs.splitOn ',' = segments ↔ Segments cs segments := by
  constructor
  · rintro rfl
    exact ⟨List.splitOn_ne_nil ',' cs, fun s => not_mem_of_mem_splitOn,
      List.intercalate_splitOn ','⟩
  · intro h
    rw [← h.intercalate_eq, List.splitOn_intercalate ',' h.not_mem h.ne_nil]

/-! ### Words -/

/-- The text is of blanks alone. -/
def IsBlank (cs : List Char) : Prop :=
  ∀ c ∈ cs, isBlank c = true

instance (cs : List Char) : Decidable (IsBlank cs) :=
  decidable_of_iff (cs.all isBlank = true) List.all_eq_true

theorem isBlankText_iff {text : String} : isBlankText text = true ↔ IsBlank text.toList :=
  List.all_eq_true

/-- A text without a blank that is not empty. -/
structure IsWord (cs : List Char) : Prop where
  ne_nil : cs ≠ []
  not_blank : ∀ c ∈ cs, isBlank c = false

/-- The text consists of the words, in order, with blanks before, between and behind them. -/
inductive Spaced : List Char → List (List Char) → Prop where
  | blank {cs : List Char} : IsBlank cs → Spaced cs []
  | word {before w rest : List Char} {ws : List (List Char)} : IsBlank before → IsWord w →
      (∀ c ∈ rest.head?, isBlank c = true) → Spaced rest ws →
      Spaced (before ++ (w ++ rest)) (w :: ws)

theorem words_cons_of_isBlank {c : Char} (cs : List Char) (hc : isBlank c = true) :
    words (c :: cs) = words cs :=
  words_append_blank [] cs hc

theorem words_append_of_isBlank {before : List Char} (cs : List Char) (h : IsBlank before) :
    words (before ++ cs) = words cs := by
  induction before with
  | nil => rfl
  | cons c before ih =>
      obtain ⟨hc, hbefore⟩ := List.forall_mem_cons.1 h
      exact (words_cons_of_isBlank _ hc).trans (ih hbefore)

theorem words_of_isBlank {cs : List Char} (h : IsBlank cs) : words cs = [] := by
  rw [← List.append_nil cs, words_append_of_isBlank [] h, words_nil]

theorem words_of_isWord {w : List Char} (h : IsWord w) : words w = [w] := by
  rw [words, List.splitOnP_eq_singleton h.not_blank]
  simp [h.ne_nil]

/-- A word ends where the text ends or where a blank stands. -/
theorem words_append_of_isWord {w rest : List Char} (hw : IsWord w)
    (hrest : ∀ c ∈ rest.head?, isBlank c = true) : words (w ++ rest) = w :: words rest := by
  cases rest with
  | nil => rw [List.append_nil, words_of_isWord hw, words_nil]
  | cons c rest =>
      have hc : isBlank c = true := hrest c rfl
      rw [words_append_blank w rest hc, words_of_isWord hw, words_cons_of_isBlank rest hc,
        List.singleton_append]

/-- Every text consists of words: a character in front begins the first word, goes before it, or is
a word of its own. -/
theorem exists_spaced (cs : List Char) : ∃ ws, Spaced cs ws := by
  induction cs with
  | nil => exact ⟨[], .blank (List.forall_mem_nil _)⟩
  | cons c cs ih =>
      obtain ⟨ws, h⟩ := ih
      cases hc : isBlank c with
      | true =>
          cases h with
          | blank hcs => exact ⟨[], .blank (List.forall_mem_cons.2 ⟨hc, hcs⟩)⟩
          | word hbefore hw hrest hs =>
              exact ⟨_, .word (List.forall_mem_cons.2 ⟨hc, hbefore⟩) hw hrest hs⟩
      | false =>
          have halone : (∀ d ∈ cs.head?, isBlank d = true) → ∃ ws, Spaced (c :: cs) ws := fun hcs =>
            ⟨_, .word (List.forall_mem_nil _) ⟨List.cons_ne_nil c [], by simpa using hc⟩ hcs h⟩
          cases h with
          | blank hcs => exact halone fun d hd => hcs d (List.mem_of_mem_head? hd)
          | @word before w rest ws hbefore hw hrest hs =>
              cases before with
              | nil =>
                  have hcw : IsWord (c :: w) :=
                    ⟨List.cons_ne_nil c w, List.forall_mem_cons.2 ⟨hc, hw.not_blank⟩⟩
                  exact ⟨_, .word (List.forall_mem_nil _) hcw hrest hs⟩
              | cons b before =>
                  refine halone fun d hd => ?_
                  obtain rfl : b = d := Option.some.inj hd
                  exact hbefore b List.mem_cons_self

/-- Cutting at the blanks gives the words and nothing else. -/
theorem words_eq_iff_spaced {cs : List Char} {ws : List (List Char)} :
    words cs = ws ↔ Spaced cs ws := by
  have hwords : ∀ {ws}, Spaced cs ws → words cs = ws := by
    intro ws h
    induction h with
    | blank h => exact words_of_isBlank h
    | word hbefore hw hrest _ ih =>
        rw [words_append_of_isBlank _ hbefore, words_append_of_isWord hw hrest, ih]
  constructor
  · rintro rfl
    obtain ⟨ws, h⟩ := exists_spaced cs
    rwa [hwords h]
  · exact hwords

/-! ### Outer blanks -/

/-- The text without its outer blanks. -/
structure IsCore (core cs : List Char) : Prop where
  head_not_blank : ∀ c ∈ core.head?, isBlank c = false
  last_not_blank : ∀ c ∈ core.getLast?, isBlank c = false
  exists_eq : ∃ before after, IsBlank before ∧ IsBlank after ∧ cs = before ++ core ++ after

theorem skipBlanks_append_of_isBlank {before : List Char} (cs : List Char) (h : IsBlank before) :
    skipBlanks (before ++ cs) = skipBlanks cs :=
  List.dropWhile_append_of_pos h

theorem skipBlanks_eq_self {cs : List Char} (h : ∀ c ∈ cs.head?, isBlank c = false) :
    skipBlanks cs = cs := by
  cases cs with
  | nil => rfl
  | cons c cs =>
      have hc : isBlank c = false := h c rfl
      exact List.dropWhile_cons_of_neg (by simp [hc])

theorem isBlank_head?_skipBlanks (cs : List Char) :
    ∀ c ∈ (skipBlanks cs).head?, isBlank c = false := by
  intro c hc
  obtain ⟨rest, hrest⟩ := List.head?_eq_some_iff.1 hc
  exact isBlank_head_skipBlanks hrest

theorem exists_append_skipBlanks (cs : List Char) :
    ∃ before, IsBlank before ∧ cs = before ++ skipBlanks cs :=
  ⟨cs.takeWhile isBlank, fun _ => List.mem_takeWhile_imp, List.takeWhile_append_dropWhile.symm⟩

/-- Trimming leaves what stands between the outer blanks. -/
theorem isCore_trim (cs : List Char) : IsCore (trim cs) cs := by
  obtain ⟨before, hbefore, hcs⟩ := exists_append_skipBlanks cs
  obtain ⟨after, hafter, hrest⟩ := exists_append_skipBlanks (skipBlanks cs).reverse
  have hsplit : skipBlanks cs = trim cs ++ after.reverse := by
    rw [trim, ← List.reverse_append, ← hrest, List.reverse_reverse]
  refine ⟨fun c hc => ?_, fun c hc => ?_, before, after.reverse, hbefore, ?_, ?_⟩
  · refine isBlank_head?_skipBlanks cs c ?_
    rw [hsplit, List.head?_append, hc]
    rfl
  · rw [trim, List.getLast?_reverse] at hc
    exact isBlank_head?_skipBlanks _ c hc
  · exact fun c hc => hafter c (List.mem_reverse.1 hc)
  · rw [List.append_assoc, ← hsplit, ← hcs]

/-- Trimming a text leaves what is between its outer blanks and nothing else. -/
theorem trim_eq_iff_isCore {cs core : List Char} : trim cs = core ↔ IsCore core cs := by
  constructor
  · rintro rfl
    exact isCore_trim cs
  · rintro ⟨hhead, hlast, before, after, hbefore, hafter, rfl⟩
    have hreverse : IsBlank after.reverse := fun c hc => hafter c (List.mem_reverse.1 hc)
    rw [List.append_assoc, trim, skipBlanks_append_of_isBlank _ hbefore]
    cases core with
    | nil =>
        rw [List.nil_append, ← List.append_nil after, skipBlanks_append_of_isBlank [] hafter]
        rfl
    | cons c core =>
        have hlast' : ∀ d ∈ (c :: core).reverse.head?, isBlank d = false := by
          rwa [List.head?_reverse]
        have hself : skipBlanks (c :: core ++ after) = c :: core ++ after :=
          skipBlanks_eq_self hhead
        rw [hself, List.reverse_append, skipBlanks_append_of_isBlank _ hreverse,
          skipBlanks_eq_self hlast', List.reverse_reverse]

/-! ### Separators in lower case -/

/-- Whether a character is a comma or a blank. -/
def isSeparator (c : Char) : Bool :=
  c == ',' || isBlank c

/-- Lower-casing neither makes nor removes a separator. -/
theorem isCaseless_isSeparator : IsCaseless isSeparator := by
  have hranges : isSeparator = fun c => inRanges ((0x2c, 0x2c) :: blankRanges) c.toNat := by
    funext c
    have hcomma : (c == ',') = (decide (0x2c ≤ c.toNat) && decide (c.toNat ≤ 0x2c)) := by
      rw [Bool.eq_iff_iff, beq_iff_eq, Bool.and_eq_true, decide_eq_true_eq, decide_eq_true_eq,
        ← Char.toNat_inj]
      exact ⟨fun h => ⟨h.ge, h.le⟩, fun h => le_antisymm h.2 h.1⟩
    rw [isSeparator, hcomma]
    rfl
  rw [hranges]
  exact isCaseless_inRanges (ignoresCase_of_letters (by decide)) (by decide) (by decide +kernel)

/-- The text is not empty and holds no separator. -/
structure IsUnbroken (cs : List Char) : Prop where
  ne_nil : cs ≠ []
  any_isSeparator : cs.any isSeparator = false

namespace IsUnbroken

variable {cs : List Char}

theorem isWord (h : IsUnbroken cs) : IsWord cs where
  ne_nil := h.ne_nil
  not_blank c hc := by
    have hsep := List.any_eq_false.1 h.any_isSeparator c hc
    simp only [isSeparator, Bool.or_eq_true, not_or, Bool.not_eq_true] at hsep
    exact hsep.2

theorem not_mem (h : IsUnbroken cs) : ',' ∉ cs :=
  fun hc => List.any_eq_false.1 h.any_isSeparator ',' hc (by decide)

theorem of_isWord (hword : IsWord cs) (hcomma : ',' ∉ cs) : IsUnbroken cs where
  ne_nil := hword.ne_nil
  any_isSeparator := by
    rw [List.any_eq_false]
    intro c hc
    have hne : c ≠ ',' := fun h => hcomma (h ▸ hc)
    simp [isSeparator, hne, hword.not_blank c hc]

/-- Names with the same lower-case form are unbroken together. -/
theorem of_lower_eq {s t : String} (h : IsUnbroken s.toList) (heq : lower s = lower t) :
    IsUnbroken t.toList := by
  have hlower : lowerAfter [] s.toList = lowerAfter [] t.toList := by
    rw [← toList_lower, heq, toList_lower]
  refine ⟨?_, ?_⟩
  · rw [ne_eq, ← lowerAfter_eq_nil_iff [], ← hlower, lowerAfter_eq_nil_iff]
    exact h.ne_nil
  · rw [← isCaseless_isSeparator.any_lowerAfter [], ← hlower,
      isCaseless_isSeparator.any_lowerAfter]
    exact h.any_isSeparator

end IsUnbroken

end Text

end FilterQuery
