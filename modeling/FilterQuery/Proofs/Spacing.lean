/-
**Blanks between tokens mean nothing.**

The text of a token is a token by itself, and remains one before a space.  So the texts of tokens
with single spaces between them are read as these tokens again, and a filter that is written in
this way has the same predicate as before, or the same refusal at another position.

Main definitions:

* `Token.spacedFrom` — tokens with one byte between each two;
* `Whitelist.StandsAlone` — a token whose text is a token by itself;
* `Likeness.unplaced` — the same texts at any positions;
* `Whitelist.respace` — the texts of the tokens of a filter with single spaces between them.

Main results:

* `Whitelist.scan_intercalate` — tokens that stand apart by single spaces are read back;
* `Whitelist.parse_respace` — **a filter means the same with single spaces between its tokens**.
-/

import FilterQuery.Proofs.Completeness
import FilterQuery.Proofs.Mirroring
import FilterQuery.Proofs.Tiling

set_option relaxedAutoImplicit false
set_option autoImplicit false

namespace FilterQuery

/-! ### Tokens with single spaces between them -/

/-- The tokens from a byte position on, with one byte between each two. -/
def Token.spacedFrom (start : Nat) : List Token → List Token
  | [] => []
  | t :: ts => { t with start := start } :: spacedFrom (start + t.text.utf8ByteSize + 1) ts

/-- Only the positions of the tokens change. -/
theorem Token.forall₂_spacedFrom (start : Nat) (ts : List Token) :
    List.Forall₂ (fun t u => t.kinds = u.kinds ∧ t.text = u.text) ts (spacedFrom start ts) := by
  induction ts generalizing start with
  | nil => exact .nil
  | cons t ts ih => exact .cons ⟨rfl, rfl⟩ (ih _)

namespace Whitelist

variable {w : Whitelist} {t : Token} {ts : List Token}

/-- The text of the token is a token by itself, of the same kind. -/
def StandsAlone (w : Whitelist) (t : Token) : Prop :=
  ∃ k, t.IsA k ∧ w.Lexeme k t.text.toList []

theorem standsAlone_of_mem_scan {text : String} (ht : t ∈ (w.scan text).items) :
    w.StandsAlone t := by
  obtain ⟨k, before, after, hkinds, -, -, hlexeme⟩ := (isTile_of_mem_scan ht).exists_lexeme
  exact ⟨k, hkinds, hlexeme.of_head? (by simp)⟩

/-- A token that is a token by itself is the first one of a text that starts with it and goes on
with what cannot belong to a word. -/
theorem StandsAlone.tiles {rest : List Char} {q : Place} (h : w.StandsAlone t) (start : Nat)
    (hrest : ∀ d ∈ rest.head?, isWordChar d = false)
    (htail : w.Tiles ⟨start + t.text.utf8ByteSize, rest⟩ ts q) :
    w.Tiles ⟨start, t.text.toList ++ rest⟩ ({ t with start := start } :: ts) q := by
  obtain ⟨k, hk, hlexeme⟩ := h
  have hkinds : t.kinds = .single k := hk
  rw [← Text.byteLength_toList] at htail
  have htoken := Tiles.token (hlexeme.of_head? hrest) htail
  rwa [String.ofList_toList, ← hkinds] at htoken

/-- Tokens that stand apart by single spaces tile their text. -/
theorem tiles_intercalate (start : Nat) (hts : ∀ t ∈ ts, w.StandsAlone t) :
    w.Tiles ⟨start, (" ".intercalate (ts.map Token.text)).toList⟩ (Token.spacedFrom start ts)
      ⟨start + (" ".intercalate (ts.map Token.text)).utf8ByteSize, []⟩ := by
  induction ts generalizing start with
  | nil => exact .refl _
  | cons t ts ih =>
      obtain ⟨ht, hts⟩ := List.forall_mem_cons.1 hts
      cases ts with
      | nil =>
          have htiles : w.Tiles ⟨start, t.text.toList ++ []⟩ _ _ :=
            ht.tiles start (by simp) (.refl _)
          rw [List.append_nil] at htiles
          exact htiles
      | cons u ts =>
          -- What follows the token is a space, which belongs to no word and is no quote.
          have htext : " ".intercalate ((t :: u :: ts).map Token.text) =
              t.text ++ (" " ++ " ".intercalate ((u :: ts).map Token.text)) := by
            rw [List.map_cons, List.map_cons, String.intercalate_cons_cons, String.append_assoc]
          have hrest := ih (start + t.text.utf8ByteSize + ' '.utf8Size) hts
          have htiles := ht.tiles start (by simp; decide) (.blank (by decide) hrest)
          rw [htext, String.toList_append, String.toList_append, String.utf8ByteSize_append,
            String.utf8ByteSize_append, ← Nat.add_assoc, ← Nat.add_assoc]
          exact htiles

/-- Tokens that stand apart by single spaces are read back. -/
theorem scan_intercalate (hts : ∀ t ∈ ts, w.StandsAlone t) :
    w.scan (" ".intercalate (ts.map Token.text)) = ⟨Token.spacedFrom 0 ts, none⟩ := by
  have htiles := tiles_intercalate 0 hts
  rw [Nat.zero_add] at htiles
  exact scan_eq_closed_iff.2 htiles

end Whitelist

/-! ### Tokens with the same texts -/

/-- The same texts at any positions. -/
def Likeness.unplaced : Likeness where
  text := Eq
  position _ _ := True
  text_refl _ := rfl

theorem Token.Mirrors.of_text_eq {w : Whitelist} {t u : Token} (hkinds : t.kinds = u.kinds)
    (htext : t.text = u.text) : t.Mirrors w .unplaced u := by
  refine ⟨hkinds, htext, trivial, fun _ => by rw [htext], fun f _ _ _ => ?_⟩
  rw [content, content, is, is, literalValue, literalValue, hkinds, htext]

/-! ### Filters with single spaces between their tokens -/

namespace Whitelist

variable {w : Whitelist}

/-- The texts of the tokens of a filter with single spaces between them. -/
def respace (w : Whitelist) (text : String) : String :=
  " ".intercalate ((w.scan text).items.map Token.text)

theorem scan_respace (w : Whitelist) (text : String) :
    w.scan (w.respace text) = ⟨Token.spacedFrom 0 (w.scan text).items, none⟩ :=
  scan_intercalate fun _ ht => standsAlone_of_mem_scan ht

/-- A text that is read to its end is blank exactly if it is after respacing. -/
theorem isBlankText_respace {text : String} (h : (w.scan text).refusal? = none) :
    Text.isBlankText (w.respace text) = Text.isBlankText text := by
  have hnil : ∀ ts, Token.spacedFrom 0 ts = [] ↔ ts = [] := by
    intro ts
    cases ts <;> simp [Token.spacedFrom]
  rw [Bool.eq_iff_iff, ← toExcept_scan_eq_ok_nil_iff (w := w),
    ← toExcept_scan_eq_ok_nil_iff (w := w), Yield.toExcept_eq_ok_iff, Yield.toExcept_eq_ok_iff,
    scan_respace, h, hnil]

/-- **A filter means the same with single spaces between its tokens**: these are the same tokens
again, and the predicate is the same, or the refusal at whatever position. -/
theorem parse_respace {text : String} (h : (w.scan text).refusal? = none) :
    (w.scan (w.respace text)).refusal? = none ∧
      List.Forall₂ (fun t u => t.kinds = u.kinds ∧ t.text = u.text) (w.scan text).items
        (w.scan (w.respace text)).items ∧
      Mirrored .unplaced (· = ·) (w.parse (some text)) (w.parse (some (w.respace text))) := by
  have hscan := scan_respace w text
  have hitems := Token.forall₂_spacedFrom 0 (w.scan text).items
  refine ⟨by rw [hscan], by rwa [hscan], ?_⟩
  refine parse_mirrored_of_scan (isBlankText_respace h).symm ⟨?_, ?_⟩
  · rw [hscan]
    exact hitems.imp fun t u htu => .of_text_eq htu.1 htu.2
  · rw [hscan, h]
    exact .none

/-- An accepted filter with tokens that touch and with other blanks, and a refused one. -/
theorem parse_respace_touching :
    (people.scan "active\tand(name eq 'O''Brien'or\u3000age in(1,2))").refusal? = none ∧
      people.respace "active\tand(name eq 'O''Brien'or\u3000age in(1,2))" =
        "active and ( name eq 'O''Brien' or age in ( 1 , 2 ) )" ∧
      Mirrored .unplaced (· = ·)
        (people.parse (some "active\tand(name eq 'O''Brien'or\u3000age in(1,2))"))
        (people.parse (some "active and ( name eq 'O''Brien' or age in ( 1 , 2 ) )")) ∧
      (people.scan "(active)'x'and").refusal? = none ∧
      people.respace "(active)'x'and" = "( active ) 'x' and" ∧
      people.parse (some "(active)'x'and") = .error (.misplaced "'x'" 8) ∧
      Mirrored .unplaced (· = ·) (people.parse (some "(active)'x'and"))
        (people.parse (some "( active ) 'x' and")) := by
  have haccepted : (people.scan "active\tand(name eq 'O''Brien'or\u3000age in(1,2))").refusal? =
      none := by
    decide +kernel
  have hrefused : (people.scan "(active)'x'and").refusal? = none := by decide +kernel
  have htext : people.respace "active\tand(name eq 'O''Brien'or\u3000age in(1,2))" =
      "active and ( name eq 'O''Brien' or age in ( 1 , 2 ) )" := by
    decide +kernel
  have htext' : people.respace "(active)'x'and" = "( active ) 'x' and" := by decide +kernel
  have hsame := (parse_respace haccepted).2.2
  have hsame' := (parse_respace hrefused).2.2
  rw [htext] at hsame
  rw [htext'] at hsame'
  exact ⟨haccepted, htext, hsame, hrefused, htext', by decide +kernel, hsame'⟩

end Whitelist

end FilterQuery
