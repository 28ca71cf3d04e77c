/-
**Where a predicate comes to hold two spaces in a row.**

The space that is written between two pieces stands alone: none is written behind a space or before
one.  But nothing takes a space away.  A piece that ends with a space may be followed by one that
starts with a space, and both spaces are kept.  Pieces of nothing at all may stand between the two,
and an argument may not, since a placeholder neither starts nor ends with a space.

Main definitions:

* `Text.IsDoubled` — a text with two adjacent spaces;
* `Piece.EndsBlank`, `Piece.StartsBlank` — pieces of text that bring a space to a seam;
* `Piece.Collide` — pieces two of which bring a space to the same seam;
* `Piece.isWritten` — a piece that is not empty.

Main results:

* `Predicate.isDoubled_glue_iff` — two texts come to hold adjacent spaces only by what they bring;
* `Predicate.isDoubled_write_iff` — **a predicate holds two adjacent spaces exactly if two pieces
  that follow each other bring them**.
-/

import FilterQuery.Proofs.Rendering
import Mathlib.Data.List.Infix

set_option relaxedAutoImplicit false
set_option autoImplicit false

namespace FilterQuery

/-! ### Adjacent spaces -/

namespace Text

/-- The text holds two adjacent spaces. -/
def IsDoubled (cs : List Char) : Prop :=
  [' ', ' '] <:+: cs

instance (cs : List Char) : Decidable (IsDoubled cs) :=
  inferInstanceAs (Decidable (_ <:+: _))

variable {c : Char} {as bs cs : List Char}

theorem not_isDoubled_nil : ¬IsDoubled [] := by
  decide

theorem isDoubled_cons_iff :
    IsDoubled (c :: cs) ↔ (c = ' ' ∧ cs.head? = some ' ') ∨ IsDoubled cs := by
  rw [IsDoubled, List.infix_cons_iff, List.cons_prefix_cons]
  refine or_congr (and_congr eq_comm ?_) Iff.rfl
  cases cs with
  | nil => simp
  | cons d cs => simp [List.cons_prefix_cons, eq_comm]

/-- Adjacent spaces of joined texts stand in one of them or on both sides of the seam. -/
theorem isDoubled_append_iff :
    IsDoubled (as ++ bs) ↔
      IsDoubled as ∨ IsDoubled bs ∨ (as.getLast? = some ' ' ∧ bs.head? = some ' ') := by
  induction as with
  | nil => simp [not_isDoubled_nil]
  | cons c as ih =>
      rw [List.cons_append, isDoubled_cons_iff, ih, isDoubled_cons_iff]
      cases as with
      | nil => simp [not_isDoubled_nil, or_comm]
      | cons d as => simp [List.getLast?_cons_cons, or_assoc]

end Text

open Text

/-! ### Seams -/

/-- The piece is a text that ends with a space. -/
def Piece.EndsBlank : Piece → Prop
  | .text s => s.toList.getLast? = some ' '
  | .argument _ => False

/-- The piece is a text that starts with a space. -/
def Piece.StartsBlank : Piece → Prop
  | .text s => s.toList.head? = some ' '
  | .argument _ => False

/-- The piece is an argument or a text without adjacent spaces. -/
def Piece.IsTight : Piece → Prop
  | .text s => ¬IsDoubled s.toList
  | .argument _ => True

instance (a : Piece) : Decidable a.EndsBlank :=
  match a with
  | .text s => inferInstanceAs (Decidable (s.toList.getLast? = some ' '))
  | .argument _ => inferInstanceAs (Decidable False)

instance (a : Piece) : Decidable a.StartsBlank :=
  match a with
  | .text s => inferInstanceAs (Decidable (s.toList.head? = some ' '))
  | .argument _ => inferInstanceAs (Decidable False)

instance (a : Piece) : Decidable a.IsTight :=
  match a with
  | .text s => inferInstanceAs (Decidable (¬IsDoubled s.toList))
  | .argument _ => inferInstanceAs (Decidable True)

/-- Of two pieces that follow each other the first ends and the second starts with a space. -/
def Piece.Collide (ps : List Piece) : Prop :=
  ∃ a b, [a, b] <:+: ps ∧ a.EndsBlank ∧ b.StartsBlank

/-- The piece is not empty: something is written for it. -/
def Piece.isWritten (a : Piece) : Bool :=
  a ≠ .text ""

/-- What is written for a piece where the next placeholder is the `n`-th. -/
def Piece.content (n : Nat) : Piece → String
  | .text s => s
  | .argument _ => Predicate.placeholder n

namespace Piece

variable {a : Piece} {n : Nat}

theorem content_ne_empty (h : a.isWritten = true) : a.content n ≠ "" := by
  cases a with
  | text s => simpa [isWritten, content] using h
  | argument v => exact (Predicate.standsApart_placeholder n).ne_empty

/-- A piece ends with a space exactly if what is written for it does. -/
theorem getLast?_content : (a.content n).toList.getLast? = some ' ' ↔ a.EndsBlank := by
  cases a with
  | text s => rfl
  | argument v =>
      refine iff_of_false (fun hlast => ?_) id
      have hends := (Predicate.standsApart_placeholder n).ends
      rw [content] at hlast
      rw [Predicate.endsApart, hlast] at hends
      contradiction

/-- A piece starts with a space exactly if what is written for it does. -/
theorem head?_content : (a.content n).toList.head? = some ' ' ↔ a.StartsBlank := by
  cases a with
  | text s => rfl
  | argument v =>
      refine iff_of_false (fun hhead => ?_) id
      have hstarts := (Predicate.standsApart_placeholder n).starts
      rw [content] at hhead
      rw [Predicate.startsApart, hhead] at hstarts
      contradiction

/-- What is written for a piece without adjacent spaces holds none: a placeholder holds no space. -/
theorem not_isDoubled_content (h : a.IsTight) : ¬IsDoubled (a.content n).toList := by
  cases a with
  | text s => exact h
  | argument v =>
      have hmem : ' ' ∉ (Predicate.placeholder n).toList := by
        rw [Predicate.placeholder, String.toList_ofList, List.mem_cons, not_or]
        refine ⟨by decide, fun hspace => ?_⟩
        have hdigit := Nat.isDigit_of_mem_toDigits (by decide) (by decide) hspace
        contradiction
      exact fun hdoubled => hmem (hdoubled.subset List.mem_cons_self)

theorem not_collide_nil : ¬Collide [] := by
  rintro ⟨b, c, hinfix, -, -⟩
  have hnil := List.infix_nil.1 hinfix
  contradiction

/-- A further piece collides with the last one or with none. -/
theorem collide_concat_iff {ps : List Piece} :
    Collide (ps ++ [a]) ↔ Collide ps ∨ (∃ b ∈ ps.getLast?, b.EndsBlank) ∧ a.StartsBlank := by
  have hpair : ∀ b c, [b, c] <:+: ps ++ [a] ↔ [b, c] <:+: ps ∨ (ps.getLast? = some b ∧ c = a) := by
    intro b c
    have hsuffix : [b, c] <:+ ps ++ [a] ↔ ps.getLast? = some b ∧ c = a := by
      rw [← List.singleton_suffix_iff_getLast?_eq_some]
      constructor
      · rintro ⟨front, hfront⟩
        have hconcat : (front ++ [b]) ++ [c] = ps ++ [a] := by simpa using hfront
        obtain ⟨hps, hc⟩ := List.append_inj' hconcat rfl
        exact ⟨⟨front, hps⟩, List.singleton_inj.1 hc⟩
      · rintro ⟨⟨front, rfl⟩, rfl⟩
        exact ⟨front, by simp⟩
    rw [List.infix_concat_iff, hsuffix, or_comm]
  constructor
  · rintro ⟨b, c, hinfix, hb, hc⟩
    rcases (hpair b c).1 hinfix with hinfix | ⟨hlast, rfl⟩
    · exact .inl ⟨b, c, hinfix, hb, hc⟩
    · exact .inr ⟨⟨b, hlast, hb⟩, hc⟩
  · rintro (⟨b, c, hinfix, hb, hc⟩ | ⟨⟨b, hlast, hb⟩, ha⟩)
    · exact ⟨b, c, (hpair b c).2 (.inl hinfix), hb, hc⟩
    · exact ⟨b, a, (hpair b a).2 (.inr ⟨hlast, rfl⟩), hb, ha⟩

end Piece

namespace Predicate

variable {p : Predicate} {ps : List Piece} {a : Piece} {s t : String}

/-- Two texts that are glued together hold adjacent spaces only if one of them does or if both
bring a space to the seam: the space that is put between them stands alone. -/
theorem isDoubled_glue_iff :
    IsDoubled (glue s t).toList ↔ IsDoubled s.toList ∨ IsDoubled t.toList ∨
      (s.toList.getLast? = some ' ' ∧ t.toList.head? = some ' ') := by
  by_cases hapart : endsApart s = true ∧ startsApart t = true
  · obtain ⟨hends, hstarts⟩ := hapart
    have hlast : s.toList.getLast? ≠ some ' ' := by
      intro hlast
      rw [endsApart, hlast] at hends
      contradiction
    have hhead : t.toList.head? ≠ some ' ' := by
      intro hhead
      rw [startsApart, hhead] at hstarts
      contradiction
    have hspace : " ".toList = [' '] := rfl
    rw [glue_of_apart hends hstarts, String.toList_append, String.toList_append, hspace,
      List.append_assoc, List.singleton_append, isDoubled_append_iff, isDoubled_cons_iff]
    simp [hlast, hhead]
  · have hglue : glue s t = s ++ t := by
      rw [glue, gap_eq_ite, if_neg (by simpa using hapart), String.append_empty]
    rw [hglue, String.toList_append, isDoubled_append_iff]

theorem text_writePiece (p : Predicate) (a : Piece) :
    (p.writePiece a).text = glue p.text (a.content p.args.length) := by
  cases a <;> rfl

/-- Empty pieces change nothing. -/
theorem write_filter_isWritten (p : Predicate) (ps : List Piece) :
    p.write (ps.filter Piece.isWritten) = p.write ps := by
  induction ps generalizing p with
  | nil => rfl
  | cons a ps ih =>
      cases hwritten : a.isWritten with
      | true => rw [List.filter_cons_of_pos hwritten, write_cons, write_cons, ih]
      | false =>
          obtain rfl : a = .text "" := by simpa [Piece.isWritten] using hwritten
          rw [List.filter_cons_of_neg (by simp [hwritten]), ih, write_cons, writePiece,
            append_empty]

/-- The last piece that is written ends the text. -/
theorem getLast?_text_write (hwritten : ∀ a ∈ ps, a.isWritten = true) :
    (empty.write ps).text.toList.getLast? = some ' ' ↔ ∃ a ∈ ps.getLast?, a.EndsBlank := by
  rcases List.eq_nil_or_concat ps with rfl | ⟨front, a, rfl⟩
  · simp [empty]
  · rw [List.concat_eq_append] at hwritten ⊢
    have hne := Piece.content_ne_empty (n := (empty.write front).args.length)
      (hwritten a (by simp))
    rw [write_append, write_cons, write_nil, text_writePiece, glue, String.toList_append,
      List.getLast?_append_of_ne_nil _ (by simpa using hne), Piece.getLast?_content]
    simp

/-- A further piece brings adjacent spaces to the text exactly if the last one before it ends with a
space and the piece starts with one. -/
theorem isDoubled_write_concat (hwritten : ∀ b ∈ ps, b.isWritten = true) (ha : a.IsTight) :
    IsDoubled (empty.write (ps ++ [a])).text.toList ↔
      IsDoubled (empty.write ps).text.toList ∨
        (∃ b ∈ ps.getLast?, b.EndsBlank) ∧ a.StartsBlank := by
  have hcontent := Piece.not_isDoubled_content (n := (empty.write ps).args.length) ha
  rw [write_append, write_cons, write_nil, text_writePiece, isDoubled_glue_iff,
    getLast?_text_write hwritten, Piece.head?_content, or_iff_right hcontent]

/-- Written pieces bring adjacent spaces to the text exactly if two that follow each other do. -/
theorem isDoubled_write_of_isWritten (hwritten : ∀ a ∈ ps, a.isWritten = true)
    (hps : ∀ a ∈ ps, a.IsTight) :
    IsDoubled (empty.write ps).text.toList ↔ Piece.Collide ps := by
  -- From the back: whether a piece brings spaces depends on the one before it alone.
  induction ps using List.reverseRecOn with
  | nil => exact iff_of_false not_isDoubled_nil Piece.not_collide_nil
  | append_singleton ps a ih =>
      rw [List.forall_mem_append, List.forall_mem_singleton] at hwritten hps
      rw [isDoubled_write_concat hwritten.1 hps.2, ih hwritten.1 hps.1, Piece.collide_concat_iff]

/-- **A predicate holds two adjacent spaces exactly where two pieces bring them.**  After any number
of calls that write pieces without adjacent spaces, the text holds adjacent spaces exactly if, among
the pieces that are not empty, one that ends with a space is followed by one that starts with a
space. -/
theorem isDoubled_write_iff (hps : ∀ a ∈ ps, a.IsTight) (n : Nat) :
    IsDoubled (empty.write (ps.take n)).text.toList ↔
      Piece.Collide ((ps.take n).filter Piece.isWritten) := by
  rw [← write_filter_isWritten]
  refine isDoubled_write_of_isWritten (fun a ha => (List.mem_filter.1 ha).2) fun a ha => ?_
  exact hps a (List.mem_of_mem_take (List.mem_filter.1 ha).1)

/-- Pieces with a space at both ends, an empty one and an argument. -/
def loosePieces : List Piece :=
  [.text "a ", .text "", .argument (.long (some 1)), .text " b ", .text "", .text " c"]

/-- An argument keeps the spaces around it apart, and an empty piece does not. -/
theorem isDoubled_write_iff_loosePieces :
    (∀ a ∈ loosePieces, a.IsTight) ∧
      ¬IsDoubled (empty.write (loosePieces.take 5)).text.toList ∧
      IsDoubled (empty.write (loosePieces.take 6)).text.toList := by
  have htight : ∀ a ∈ loosePieces, a.IsTight := by decide +kernel
  have hpieces : (loosePieces.take 6).filter Piece.isWritten =
      [.text "a ", .argument (.long (some 1)), .text " b ", .text " c"] := by
    decide +kernel
  refine ⟨htight, by decide +kernel, (isDoubled_write_iff htight 6).2 ?_⟩
  rw [hpieces]
  exact ⟨.text " b ", .text " c", ⟨[_, _], [], rfl⟩, by decide +kernel, by decide +kernel⟩

/-- Pieces without adjacent spaces may well bring some to the text. -/
theorem isDoubled_write_two_pieces :
    ¬∀ ps : List Piece, (∀ a ∈ ps, a.IsTight) →
      ∀ n, ¬IsDoubled (empty.write (ps.take n)).text.toList := by
  intro h
  exact h [.text "a ", .text " b"] (by decide +kernel) 2 (by decide +kernel)

end Predicate

end FilterQuery
