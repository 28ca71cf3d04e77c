/-
**Rendering: the text that is written is the text of the formula.**

A predicate is written piece by piece, and whether a space goes before a piece depends on the
characters on both sides of the seam.  Writing is therefore first described as an operation on
texts that is associative as long as no text is empty.  A sequence of pieces then writes one text,
as if that text were a single piece, and the texts of a formula are put together along its tree.
The predicate of an accepted text is therefore that of its formula.

Main definitions:

* `Predicate.startsApart`, `Predicate.endsApart` — a text that is set off from what stands before
  it, and from what stands after it;
* `Predicate.glue` — two texts with the space that belongs between them;
* `Predicate.Writes` — pieces write a text, from a given placeholder on, and some arguments.

Main results:

* `Predicate.glue_assoc` — the space between two texts does not depend on what else is written;
* `Predicate.Writes.spaced` — two sequences of pieces write their texts with a space between;
* `Whitelist.Derives.writes` — the pieces of a derivable formula write its text and its values;
* `Whitelist.Derives.write_empty` — written from the start they make the predicate of the formula.
-/

import FilterQuery.Proofs.Completeness
import Mathlib.Data.List.Basic

set_option relaxedAutoImplicit false
set_option autoImplicit false

namespace FilterQuery

namespace Predicate

/-! ### Seams -/

/-- The text has a first character, and one that is set off from what stands before it. -/
def startsApart (s : String) : Bool :=
  s.toList.head?.any fun c => decide (c ∉ [')', ',', ' '])

/-- The text has a last character, and one from which what stands after it is set off. -/
def endsApart (s : String) : Bool :=
  s.toList.getLast?.any fun c => decide (c ∉ ['(', '!', ' '])

/-- Two texts with the space that belongs between them. -/
def glue (a b : String) : String :=
  a ++ gap a b ++ b

variable {a b c : String}

theorem gap_eq_ite (a b : String) :
    gap a b = if endsApart a && startsApart b then " " else "" := by
  rw [gap_eq, endsApart, startsApart]
  cases a.toList.getLast? <;> cases b.toList.head? <;> simp [needsSpace]

theorem startsApart_append (h : a ≠ "") : startsApart (a ++ b) = startsApart a := by
  rw [startsApart, startsApart, String.toList_append,
    List.head?_append_of_ne_nil _ (by simpa using h)]

theorem endsApart_append (h : b ≠ "") : endsApart (a ++ b) = endsApart b := by
  rw [endsApart, endsApart, String.toList_append,
    List.getLast?_append_of_ne_nil _ (by simpa using h)]

theorem ne_empty_of_startsApart (h : startsApart a = true) : a ≠ "" := by
  rintro rfl
  simp [startsApart] at h

theorem ne_empty_of_endsApart (h : endsApart a = true) : a ≠ "" := by
  rintro rfl
  simp [endsApart] at h

theorem glue_of_apart (ha : endsApart a = true) (hb : startsApart b = true) :
    glue a b = a ++ " " ++ b := by
  rw [glue, gap_eq_ite, ha, hb]
  rfl

theorem glue_of_not_endsApart (h : endsApart a = false) : glue a b = a ++ b := by
  rw [glue, gap_eq_ite, h]
  simp

theorem glue_of_not_startsApart (h : startsApart b = false) : glue a b = a ++ b := by
  rw [glue, gap_eq_ite, h]
  simp

/-- The space between two texts does not depend on what else is written. -/
theorem glue_assoc (hb : b ≠ "") : glue (glue a b) c = glue a (glue b c) := by
  have hleft : gap (glue a b) c = gap b c := by
    rw [gap_eq_ite, gap_eq_ite, glue, endsApart_append hb]
  have hright : gap a (glue b c) = gap a b := by
    rw [gap_eq_ite, gap_eq_ite, glue, String.append_assoc, startsApart_append hb]
  rw [glue, hleft, glue, glue, hright, glue]
  simp only [String.append_assoc]

/-! ### Texts that are set off on both sides -/

/-- The text is set off from what stands before it and from what stands after it. -/
structure StandsApart (s : String) : Prop where
  starts : startsApart s = true
  ends : endsApart s = true

instance (s : String) : Decidable (StandsApart s) :=
  decidable_of_iff (startsApart s = true ∧ endsApart s = true)
    ⟨fun h => ⟨h.1, h.2⟩, fun h => ⟨h.starts, h.ends⟩⟩

theorem StandsApart.ne_empty (h : StandsApart a) : a ≠ "" := by
  rintro rfl
  exact absurd h.starts (by decide)

/-- Only the first and the last part of a text decide whether it is set off. -/
theorem standsApart_append (ha : startsApart a = true) (hb : endsApart b = true) :
    StandsApart (a ++ b) where
  starts := by rw [startsApart_append (ne_empty_of_startsApart ha), ha]
  ends := by rw [endsApart_append (ne_empty_of_endsApart hb), hb]

theorem standsApart_placeholder (n : Nat) : StandsApart (placeholder n) where
  starts := by simp [startsApart, placeholder]
  ends := by
    have hmem : ∀ c ∈ '@' :: Number.showNat n, c ∉ ['(', '!', ' '] := by
      intro c hc
      rcases List.mem_cons.1 hc with rfl | hc
      · decide
      · have hd := Nat.isDigit_of_mem_toDigits (by decide) (by decide) hc
        intro hcs
        simp only [List.mem_cons, List.not_mem_nil, or_false] at hcs
        rcases hcs with rfl | rfl | rfl <;> simp at hd
    rw [endsApart, placeholder, String.toList_ofList, List.getLast?_eq_some_getLast (by simp)]
    simpa using hmem _ (List.getLast_mem (by simp))

/-! ### Pieces that write a text -/

/-- The pieces write the text `text k` when the next placeholder is the `k`-th, as if it were one
piece that is set off on both sides, and they add the arguments. -/
structure Writes (pieces : List Piece) (text : Nat → String) (args : List Value) : Prop where
  write_eq : ∀ p : Predicate, p.write pieces = ⟨glue p.text (text p.args.length), p.args ++ args⟩
  apart : ∀ k, StandsApart (text k)

variable {as bs : List Value} {s t : Nat → String} {ps qs : List Piece}

theorem writes_text (h : StandsApart a) : Writes [.text a] (fun _ => a) [] where
  write_eq p := by simp [writePiece, append, glue]
  apart _ := h

theorem writes_argument (v : Value) : Writes [.argument v] placeholder [v] where
  write_eq p := by simp [writePiece, appendValue, append, glue]
  apart := standsApart_placeholder

theorem Writes.congr (h : Writes ps s as) (heq : ∀ k, s k = t k) : Writes ps t as := by
  obtain rfl : s = t := funext heq
  exact h

/-- Two sequences of pieces write their texts with a space between them. -/
theorem Writes.spaced (h : Writes ps s as) (h' : Writes qs t bs) :
    Writes (ps ++ qs) (fun k => s k ++ " " ++ t (k + as.length)) (as ++ bs) where
  write_eq p := by
    have hs := h.apart p.args.length
    have ht := h'.apart (p.args.length + as.length)
    rw [write_append, h.write_eq p, h'.write_eq]
    simp only [List.length_append, List.append_assoc]
    rw [glue_assoc hs.ne_empty, glue_of_apart hs.ends ht.starts]
  apart k := by
    have hs := h.apart k
    have ht := h'.apart (k + as.length)
    rw [String.append_assoc]
    refine standsApart_append hs.starts ?_
    rw [endsApart_append ht.ne_empty]
    exact ht.ends

/-- An opening piece is written without a space after it. -/
theorem Writes.openedBy (h : Writes ps s as) (hstart : startsApart a = true)
    (hend : endsApart a = false) : Writes (.text a :: ps) (fun k => a ++ s k) as where
  write_eq p := by
    rw [write_cons, h.write_eq]
    show Predicate.mk (glue (glue p.text a) (s p.args.length)) (p.args ++ as) = _
    rw [glue_assoc (ne_empty_of_startsApart hstart), glue_of_not_endsApart hend]
  apart k := standsApart_append hstart (h.apart k).ends

/-- A closing piece is written without a space before it. -/
theorem Writes.closedBy (h : Writes ps s as) (hstart : startsApart a = false)
    (hend : endsApart a = true) : Writes (ps ++ [.text a]) (fun k => s k ++ a) as where
  write_eq p := by
    rw [write_append, h.write_eq]
    show Predicate.mk (glue (glue p.text (s p.args.length)) a) (p.args ++ as) = _
    rw [glue_assoc (h.apart _).ne_empty, glue_of_not_startsApart hstart]
  apart k := standsApart_append (h.apart k).starts hend

/-- Pieces between parentheses. -/
theorem Writes.parenthesised (h : Writes ps s as) :
    Writes ([.text "("] ++ ps ++ [.text ")"]) (fun k => "(" ++ s k ++ ")") as :=
  (h.openedBy (by decide) (by decide)).closedBy (by decide) (by decide)

end Predicate

/-! ### The texts of formulas -/

namespace Formula

open Predicate

variable {f : Field} {ps : List Piece} {s : Nat → String} {as : List Value}

/-- What is guarded is written as before, inside the guard. -/
theorem writes_guard (hf : StandsApart f.target) (h : Writes ps s as) :
    Writes (f.guard ps) (fun k => guarded f (s k)) as := by
  cases hguard : f.checkNotNull with
  | false => simpa [Field.guard, guarded, hguard] using h
  | true =>
      have htest := (writes_text hf).spaced ((writes_text (a := "!=") (by decide)).spaced
        ((writes_text (a := "null") (by decide)).spaced (writes_text (a := "&&") (by decide))))
      have hall := (htest.spaced h).parenthesised
      have hlit : " != null && " = " " ++ ("!=" ++ " " ++ ("null" ++ " " ++ "&&")) ++ " " := by
        decide
      simpa [Field.guard, guarded, hguard, hlit, String.append_assoc] using hall

theorem standsApart_compared (hf : StandsApart f.target) : StandsApart f.compared := by
  unfold Field.compared
  split
  · exact standsApart_append hf.starts (by decide)
  · exact hf

theorem writes_constant (c : Constant) :
    Writes [c.piece] (fun k => constantText k c) c.value?.toList := by
  cases c with
  | null => exact writes_text (by decide)
  | value v => exact writes_argument v

/-- A list writes its constants with a comma and a space between them. -/
theorem writes_listPieces {cs : List Constant} (hcs : cs ≠ []) :
    Writes (Comparison.listPieces cs) (fun k => ", ".intercalate (constantTexts k cs))
      (cs.filterMap Constant.value?) := by
  induction cs with
  | nil => exact absurd rfl hcs
  | cons c cs ih =>
      have hc := writes_constant c
      have hargs : (c :: cs).filterMap Constant.value? =
          c.value?.toList ++ cs.filterMap Constant.value? := by
        cases c <;> rfl
      cases cs with
      | nil =>
          simp only [constantTexts, String.intercalate_singleton]
          simpa [hargs, Comparison.listPieces] using hc
      | cons d cs =>
          have hboth := (hc.closedBy (a := ",") (by decide) (by decide)).spaced (ih (by simp))
          have hsep : ", " = "," ++ " " := by decide
          rw [hargs]
          refine hboth.congr fun k => ?_
          simp only [constantTexts, String.intercalate_cons_cons, hsep, String.append_assoc]

theorem writes_compared {op : Kind} (hf : StandsApart f.target) (hop : op ∈ KindSet.comparison)
    (c : Constant) : Writes (compared f op c).pieces (fun k => (compared f op c).text k)
      (compared f op c).args := by
  have hsym : StandsApart (op.operatorSymbol?.getD "") := by
    revert hop
    cases op <;> decide
  have hright := (writes_text hsym).spaced (writes_constant c)
  cases c with
  | null =>
      have hnull : " null" = " " ++ "null" := by decide
      simpa [pieces, text, args, Comparison.scalarPieces, constantText, hnull,
        Constant.piece, String.append_assoc] using (writes_text hf).spaced hright
  | value v =>
      have hleft := writes_text (standsApart_compared hf)
      simpa [pieces, text, args, Comparison.scalarPieces, constantText,
        Constant.piece, String.append_assoc] using writes_guard hf (hleft.spaced hright)

theorem writes_listed {cs : List Constant} (hf : StandsApart f.target) (hcs : cs ≠ []) :
    Writes (listed f cs).pieces (fun k => (listed f cs).text k) (listed f cs).args := by
  have hleft := writes_text (standsApart_compared hf)
  have hin := writes_text (a := "in") (by decide)
  have hall := hleft.spaced (hin.spaced (writes_listPieces hcs).parenthesised)
  have hlit : " in (" = " " ++ ("in" ++ " " ++ "(") := by decide
  refine hall.congr fun k => ?_
  simp only [text, hlit, List.length_nil, Nat.add_zero, String.append_assoc]

theorem writes_call (hf : StandsApart f.target) (fn : Kind) (v : Value) :
    Writes (call fn f v).pieces (fun k => (call fn f v).text k) (call fn f v).args := by
  have hstart : startsApart (f.compared ++ "." ++ fn.functionName?.getD "" ++ "(") = true := by
    have hc := standsApart_compared hf
    rw [String.append_assoc, String.append_assoc, startsApart_append hc.ne_empty]
    exact hc.starts
  have hend : endsApart (f.compared ++ "." ++ fn.functionName?.getD "" ++ "(") = false := by
    rw [endsApart_append (by decide)]
    decide
  have hcall := ((writes_argument v).openedBy hstart hend).closedBy (a := ")") (by decide)
    (by decide)
  exact writes_guard hf hcall

end Formula

theorem Field.Lists.ne_nil {f : Field} {cs : List Constant} {ts : List Token}
    (h : f.Lists cs ts) : cs ≠ [] := by
  cases h <;> simp

namespace Whitelist

open Predicate

variable {w : Whitelist}

/-- The pieces of a derivable formula write its text and its values. -/
theorem Derives.writes {κ : Category} {φ : Formula} {ts : List Token} (h : w.Derives κ φ ts)
    (hw : ∀ f ∈ w.fields, StandsApart f.target) :
    Writes φ.pieces (fun k => φ.text k) φ.args := by
  induction h with
  | flag hf _ => exact writes_text (hw _ (mem_fields_of_names hf))
  | compared hf _ hop _ _ _ => exact Formula.writes_compared (hw _ (mem_fields_of_names hf)) hop _
  | listed hf _ _ _ hcs _ => exact Formula.writes_listed (hw _ (mem_fields_of_names hf)) hcs.ne_nil
  | call _ _ _ hf _ _ _ _ => exact Formula.writes_call (hw _ (mem_fields_of_names hf)) _ _
  | group _ _ _ ih => exact ih.parenthesised
  | negation _ _ _ _ ih =>
      have hnot := ih.parenthesised.openedBy (a := "!") (by decide) (by decide)
      have hlit : "!(" = "!" ++ "(" := by decide
      refine hnot.congr fun k => ?_
      simp only [Formula.text, hlit, String.append_assoc]
  | single _ ih => exact ih
  | @join φ ψ ts us t c _ _ _ ihl ihr =>
      have hsym : StandsApart c.symbol := by cases c <;> decide
      have hall := (ihl.spaced (writes_text hsym)).spaced ihr
      simpa [Formula.pieces, Formula.text, Formula.args] using hall

theorem Derives.write_empty {φ : Formula} {ts : List Token} (h : w.Derives .filter φ ts)
    (hw : ∀ f ∈ w.fields, StandsApart f.target) :
    Predicate.empty.write φ.pieces = φ.predicate := by
  rw [(h.writes hw).write_eq]
  show Predicate.mk ("" ++ gap "" (φ.text 0) ++ φ.text 0) ([] ++ φ.args) = ⟨φ.text 0, φ.args⟩
  rw [gap_eq_ite]
  simp [endsApart]

/-- **An accepted text has the predicate of its formula.**  Its tokens are a filter, and whichever
formula they are read as, the text of the predicate is the text of the formula and the arguments
are its values. -/
theorem predicate_eq_formula {text : String} {p : Predicate}
    (hw : ∀ f ∈ w.fields, StandsApart f.target) (hp : w.parse (some text) = .ok (some p)) :
    ∃ ts, (w.scan text).toExcept = .ok ts ∧ (∃ φ, w.Derives .filter φ ts) ∧
      ∀ φ, w.Derives .filter φ ts → p = φ.predicate := by
  obtain ⟨ts, φ, hscan, hφ, rfl⟩ := parse_eq_ok_some_iff_derives.1 hp
  refine ⟨ts, hscan, ⟨φ, hφ⟩, ?_⟩
  intro ψ hψ
  -- The text is accepted with the output of `ψ` as well, and it has one predicate.
  have hboth := hp.symm.trans (parse_eq_ok_some_iff_derives.2 ⟨ts, ψ, hscan, hψ, rfl⟩)
  rw [Option.some.inj (Except.ok.inj hboth)]
  exact hψ.write_empty hw

theorem predicate_eq_formula_guarded_list :
    (∀ f ∈ people.fields, StandsApart f.target) ∧
      ∃ ts, (people.scan "name in ('a', null) or not (name eq 'b')").toExcept = .ok ts ∧
        (∃ φ, people.Derives .filter φ ts) ∧
        ∀ φ, people.Derives .filter φ ts →
          ⟨"Person.Name.ToUpper() in (@0, null) || " ++
            "!((Person.Name != null && Person.Name.ToUpper() == @1))",
            [.string (some "A"), .string (some "B")]⟩ = φ.predicate :=
  ⟨by decide +kernel, predicate_eq_formula (by decide +kernel) (by decide +kernel)⟩

end Whitelist

end FilterQuery
