/-
**Placeholders: the at signs of a predicate are the placeholders of its arguments, in order.**

A text is scanned for at signs, each with all the digits after it.  Two texts may run together at a
seam where the one ends with a placeholder and the other starts with a digit.  At such a seam a
space is written, so what is found in a written text is what is found in its pieces, and this is
one placeholder for each argument, whatever the names of the fields are.

Main definitions:

* `Predicate.marks` — every at sign of a text with the digits after it;
* `Piece.Unmarked` — an argument, or a piece of text without an at sign;
* `Predicate.IsNumbered` — the marks of a predicate are the placeholders of its arguments.

Main results:

* `Predicate.marks_seam` — nothing runs together at a seam;
* `Predicate.IsNumbered.writePiece`, `Predicate.IsNumbered.write` — unmarked pieces keep the marks
  and the arguments in step;
* `Whitelist.Derives.unmarked` — the pieces of a derivable formula are unmarked.
-/

import FilterQuery.Proofs.Completeness

set_option relaxedAutoImplicit false
set_option autoImplicit false

namespace FilterQuery

namespace Predicate

/-! ### Marks -/

/-- Every at sign, with the longest run of digits after it. -/
def marks : List Char → List (List Char)
  | [] => []
  | c :: cs => if c = '@' then (c :: cs.takeWhile Char.isDigit) :: marks cs else marks cs

theorem length_marks (cs : List Char) : (marks cs).length = cs.count '@' := by
  induction cs with
  | nil => rfl
  | cons c cs ih =>
      by_cases hc : c = '@'
      · simp [marks, hc, ih]
      · simp [marks, hc, ih]

theorem marks_eq_nil {cs : List Char} (h : '@' ∉ cs) : marks cs = [] := by
  rw [← List.length_eq_zero_iff, length_marks, List.count_eq_zero_of_not_mem h]

/-- A run of digits does not go on into a text that does not start with one. -/
theorem takeWhile_append_of_head {as bs : List Char} (h : ∀ c ∈ bs.head?, c.isDigit = false) :
    (as ++ bs).takeWhile Char.isDigit = as.takeWhile Char.isDigit := by
  induction as with
  | nil =>
      cases bs with
      | nil => rfl
      | cons b bs =>
          have hb := h b rfl
          simp [hb]
  | cons a as ih => simp [List.takeWhile_cons, ih]

theorem marks_append_of_head {as bs : List Char} (h : ∀ c ∈ bs.head?, c.isDigit = false) :
    marks (as ++ bs) = marks as ++ marks bs := by
  induction as with
  | nil => rfl
  | cons a as ih =>
      simp only [List.cons_append, marks, takeWhile_append_of_head h, ih]
      split <;> rfl

/-- A character that is neither a digit nor an at sign ends a mark, and is none itself. -/
theorem marks_append_cons {as bs : List Char} {c : Char} (hd : c.isDigit = false) (hc : c ≠ '@') :
    marks (as ++ c :: bs) = marks as ++ marks bs := by
  rw [marks_append_of_head (by simpa using hd)]
  simp [marks, hc]

theorem marks_append_of_getLast {as bs : List Char}
    (h : ∀ c ∈ as.getLast?, c.isDigit = false ∧ c ≠ '@') :
    marks (as ++ bs) = marks as ++ marks bs := by
  rcases List.eq_nil_or_concat as with rfl | ⟨front, c, rfl⟩
  · rfl
  · obtain ⟨hd, hc⟩ := h c (by simp)
    have hfront : marks (front ++ [c]) = marks front := by
      rw [marks_append_cons hd hc]
      simp [marks]
    rw [List.concat_eq_append, hfront, List.append_assoc]
    exact marks_append_cons hd hc

theorem ends_or_starts_of_not_needsSpace {c d : Char}
    (h : needsSpace (some c) (some d) = false) :
    (c.isDigit = false ∧ c ≠ '@') ∨ d.isDigit = false := by
  by_cases hc : c ∈ ['(', '!', ' ']
  · left
    simp only [List.mem_cons, List.not_mem_nil, or_false] at hc
    rcases hc with rfl | rfl | rfl <;> decide
  · right
    have hd : d ∈ [')', ',', ' '] := by
      by_contra hd
      simp [needsSpace, hc, hd] at h
    simp only [List.mem_cons, List.not_mem_nil, or_false] at hd
    rcases hd with rfl | rfl | rfl <;> decide

/-- **Nothing runs together at a seam.**  Where the second text starts with a digit either a space
goes before it, or the first text ends with a character that ends a mark. -/
theorem marks_seam (a b : String) :
    marks (a ++ gap a b ++ b).toList = marks a.toList ++ marks b.toList := by
  simp only [String.toList_append, gap_eq]
  cases hspace : needsSpace a.toList.getLast? b.toList.head? with
  | true =>
      rw [if_pos rfl, List.append_assoc]
      exact marks_append_cons (by decide) (by decide)
  | false =>
      rw [if_neg (by simp), String.toList_empty, List.append_nil]
      cases hlast : a.toList.getLast? with
      | none => exact marks_append_of_getLast (by simp [hlast])
      | some c =>
          cases hhead : b.toList.head? with
          | none => exact marks_append_of_head (by simp [hhead])
          | some d =>
              rw [hlast, hhead] at hspace
              rcases ends_or_starts_of_not_needsSpace hspace with hc | hd
              · exact marks_append_of_getLast (by simpa [hlast] using hc)
              · exact marks_append_of_head (by simpa [hhead] using hd)

theorem marks_placeholder (n : Nat) : marks (placeholder n).toList = [(placeholder n).toList] := by
  have hdigits : ∀ c ∈ Number.showNat n, c.isDigit = true := fun c hc =>
    Nat.isDigit_of_mem_toDigits (by decide) (by decide) hc
  have hnone : '@' ∉ Number.showNat n := fun h => absurd (hdigits _ h) (by decide)
  rw [placeholder, String.toList_ofList, marks, if_pos rfl, marks_eq_nil hnone,
    List.takeWhile_eq_self_iff.2 hdigits]

end Predicate

/-! ### Writing -/

/-- The piece is an argument or a text without an at sign. -/
def Piece.Unmarked : Piece → Prop
  | .text s => '@' ∉ s.toList
  | .argument _ => True

@[simp] theorem Piece.unmarked_text (s : String) : (text s).Unmarked ↔ '@' ∉ s.toList := Iff.rfl

@[simp] theorem Piece.unmarked_argument (v : Value) : (argument v).Unmarked := trivial

namespace Predicate

variable {p : Predicate} {ps : List Piece}

/-- The marks of a predicate are the placeholders of its arguments, in order. -/
def IsNumbered (p : Predicate) : Prop :=
  marks p.text.toList = (List.range p.args.length).map fun n => (placeholder n).toList

theorem isNumbered_empty : IsNumbered .empty := rfl

/-- An unmarked piece keeps the marks and the arguments in step. -/
theorem IsNumbered.writePiece {a : Piece} (h : p.IsNumbered) (ha : a.Unmarked) :
    (p.writePiece a).IsNumbered := by
  cases a with
  | text s =>
      unfold IsNumbered
      rw [Predicate.writePiece, args_append, ← h, append, marks_seam, marks_eq_nil ha,
        List.append_nil]
  | argument v =>
      unfold IsNumbered
      rw [Predicate.writePiece, args_appendValue, appendValue, append, marks_seam, h,
        marks_placeholder, List.length_append, List.length_singleton, List.range_succ,
        List.map_append, List.map_singleton]

theorem IsNumbered.write (h : p.IsNumbered) (hps : ∀ a ∈ ps, a.Unmarked) :
    (p.write ps).IsNumbered := by
  induction ps generalizing p with
  | nil => exact h
  | cons a ps ih =>
      rw [write_cons]
      exact ih (h.writePiece (hps a (by simp))) fun b hb => hps b (by simp [hb])

end Predicate

/-! ### The pieces of a formula -/

section Pieces

variable {f : Field} {ps : List Piece}

theorem Field.not_mem_compared (hf : '@' ∉ f.target.toList) : '@' ∉ f.compared.toList := by
  unfold compared
  split
  · simpa [String.toList_append] using hf
  · exact hf

theorem Field.unmarked_guard (hf : '@' ∉ f.target.toList) (hps : ∀ a ∈ ps, a.Unmarked) :
    ∀ a ∈ f.guard ps, a.Unmarked := by
  unfold guard
  split
  · simpa [or_imp, forall_and, hf] using hps
  · exact hps

theorem Constant.unmarked_piece (c : Constant) : c.piece.Unmarked := by
  cases c with
  | null => simp [piece]
  | value v => simp [piece]

theorem Comparison.unmarked_listPieces (cs : List Constant) :
    ∀ a ∈ listPieces cs, a.Unmarked := by
  induction cs with
  | nil => simp [listPieces]
  | cons c cs ih =>
      cases cs with
      | nil => simpa [listPieces] using c.unmarked_piece
      | cons d cs =>
          simp only [listPieces, List.forall_mem_cons]
          exact ⟨c.unmarked_piece, by simp, ih⟩

theorem Formula.unmarked_compared (hf : '@' ∉ f.target.toList) (op : Kind) (c : Constant) :
    ∀ a ∈ (Formula.compared f op c).pieces, a.Unmarked := by
  have hsym : '@' ∉ (op.operatorSymbol?.getD "").toList := by cases op <;> decide
  cases c with
  | null => simp [pieces, Comparison.scalarPieces, hf, hsym]
  | value v =>
      refine Field.unmarked_guard hf ?_
      simp [hsym, Field.not_mem_compared hf]

theorem Formula.unmarked_call (hf : '@' ∉ f.target.toList) (fn : Kind) (v : Value) :
    ∀ a ∈ (Formula.call fn f v).pieces, a.Unmarked := by
  have hname : '@' ∉ (fn.functionName?.getD "").toList := by cases fn <;> decide
  refine Field.unmarked_guard hf ?_
  simp [hname, Field.not_mem_compared hf]

end Pieces

namespace Whitelist

variable {w : Whitelist}

/-- If no field is written with an at sign then no piece of a derivable formula has one. -/
theorem Derives.unmarked {κ : Category} {φ : Formula} {ts : List Token} (h : w.Derives κ φ ts)
    (hw : ∀ f ∈ w.fields, '@' ∉ f.target.toList) : ∀ a ∈ φ.pieces, a.Unmarked := by
  induction h with
  | flag hf _ => simpa [Formula.pieces] using hw _ (mem_fields_of_names hf)
  | compared hf _ _ _ _ _ => exact Formula.unmarked_compared (hw _ (mem_fields_of_names hf)) _ _
  | @listed t op open_ close f cs ts hf _ _ _ _ _ =>
      have hcmp := Field.not_mem_compared (hw _ (mem_fields_of_names hf))
      have hcs := Comparison.unmarked_listPieces cs
      simpa [Formula.pieces, or_imp, forall_and, hcmp] using hcs
  | call _ _ _ hf _ _ _ _ => exact Formula.unmarked_call (hw _ (mem_fields_of_names hf)) _ _
  | group _ _ _ ih => simpa [Formula.pieces, or_imp, forall_and] using ih
  | negation _ _ _ _ ih => simpa [Formula.pieces, or_imp, forall_and] using ih
  | single _ ih => exact ih
  | @join φ ψ ts us t c _ _ _ ihl ihr =>
      have hsym : '@' ∉ c.symbol.toList := by cases c <;> decide
      simpa [Formula.pieces, or_imp, forall_and, hsym] using ⟨ihl, ihr⟩

/-- **Placeholders and arguments correspond one to one.**  If no field is written with an at sign,
the at signs of an accepted text's predicate are the placeholders of the arguments, each once and
in order. -/
theorem marks_eq_placeholders {text : String} {p : Predicate}
    (hw : ∀ f ∈ w.fields, '@' ∉ f.target.toList) (hp : w.parse (some text) = .ok (some p)) :
    Predicate.marks p.text.toList =
        (List.range p.args.length).map (fun n => '@' :: Number.showNat n) ∧
      p.text.toList.count '@' = p.args.length := by
  obtain ⟨ts, φ, -, hφ, rfl⟩ := parse_eq_ok_some_iff_derives.1 hp
  have hnum := Predicate.isNumbered_empty.write (hφ.unmarked hw)
  refine ⟨by simpa [Predicate.IsNumbered, Predicate.placeholder] using hnum, ?_⟩
  rw [← Predicate.length_marks, hnum, List.length_map, List.length_range]

theorem marks_eq_placeholders_list_and_call :
    (∀ f ∈ people.fields, '@' ∉ f.target.toList) ∧
      ∃ p, people.parse (some "age in (1, null, 3) and contains(name, '@7')") = .ok (some p) ∧
        Predicate.marks p.text.toList =
          (List.range p.args.length).map (fun n => '@' :: Number.showNat n) ∧
        p.text.toList.count '@' = p.args.length := by
  have hp : people.parse (some "age in (1, null, 3) and contains(name, '@7')") =
      .ok (some ⟨"age in (@0, null, @1) && " ++
        "(Person.Name != null && Person.Name.ToUpper().Contains(@2))",
        [.long (some 1), .long (some 3), .string (some "@7")]⟩) := by
    decide +kernel
  exact ⟨by decide +kernel, _, hp, marks_eq_placeholders (by decide +kernel) hp⟩

end Whitelist

end FilterQuery
