/-
**The tokens of a text that is made of two.**

Where a text has been read up to its end and what follows starts with a character that belongs to
no word, the tokens of both together are those of the first and then those of the second.  The
tokens of the second are what they are by themselves, moved by the length of the first.

Main definitions:

* `Token.shift`, `Refusal.shift` — a token and a refusal that are moved by a number of bytes;
* `Yield.mapBoth` — a yield with its items and its refusal changed.

Main results:

* `Whitelist.scanFrom_add` — reading from a later position moves everything that is read;
* `Whitelist.scanFrom_append` — **the tokens of two texts in a row**;
* `Whitelist.takeToken?_of_word` — a word is taken up to what no longer belongs to it;
* `Whitelist.scanFrom_word`, `Whitelist.scanFrom_punctuation` — the tokens of a text that starts
  with a word or a punctuation mark.
-/

import FilterQuery.Token.Scan
import Mathlib.Data.List.TakeWhile

set_option relaxedAutoImplicit false
set_option autoImplicit false

namespace FilterQuery

/-! ### Moving what is read -/

/-- A token that stands `offset` bytes later. -/
def Token.shift (offset : Nat) (t : Token) : Token :=
  { t with start := t.start + offset }

/-- A refusal of what stands `offset` bytes later. -/
def Refusal.shift (offset : Nat) : Refusal → Refusal
  | .unterminatedLiteral start => .unterminatedLiteral (start + offset)
  | .misplaced text start => .misplaced text (start + offset)
  | .unbalanced text start => .unbalanced text (start + offset)
  | .incomplete text start => .incomplete text (start + offset)
  | r => r

namespace Yield

variable {α β : Type}

/-- A yield with its items and its refusal changed. -/
def mapBoth (f : α → β) (g : Refusal → Refusal) (y : Yield α) : Yield β :=
  ⟨y.items.map f, y.refusal?.map g⟩

@[simp] theorem items_mapBoth (f : α → β) (g : Refusal → Refusal) (y : Yield α) :
    (y.mapBoth f g).items = y.items.map f := rfl

@[simp] theorem refusal?_mapBoth (f : α → β) (g : Refusal → Refusal) (y : Yield α) :
    (y.mapBoth f g).refusal? = y.refusal?.map g := rfl

theorem mapBoth_prepend (f : α → β) (g : Refusal → Refusal) (items : List α) (y : Yield α) :
    (y.prepend items).mapBoth f g = (y.mapBoth f g).prepend (items.map f) := by
  simp [mapBoth, prepend]

theorem prepend_prepend (as bs : List α) (y : Yield α) :
    (y.prepend bs).prepend as = y.prepend (as ++ bs) := by
  simp [prepend]

end Yield

/-! ### Pieces of a text -/

/-- A literal is read up to its closing quote, whatever follows, unless that is a quote. -/
theorem Text.takeLiteral?_append {cs body rest : List Char} {d : Char} (ds : List Char)
    (hd : d ≠ '\'') (h : takeLiteral? cs = some (body, rest)) :
    takeLiteral? (cs ++ d :: ds) = some (body, rest ++ d :: ds) := by
  fun_induction takeLiteral? cs generalizing body rest with
  | case1 cs ih =>
      obtain ⟨⟨b, r⟩, hb, heq⟩ := Option.map_eq_some_iff.1 h
      obtain ⟨rfl, rfl⟩ := Prod.mk.inj heq
      simp [takeLiteral?, ih hb]
  | case2 cs hcs =>
      obtain ⟨rfl, rfl⟩ := Prod.mk.inj (Option.some.inj h)
      rw [List.cons_append, takeLiteral?.eq_2]
      intro cs' heq
      cases cs with
      | nil =>
          obtain ⟨rfl, -⟩ := List.cons.inj heq
          exact hd rfl
      | cons c cs =>
          obtain ⟨rfl, -⟩ := List.cons.inj heq
          exact hcs cs rfl
  | case3 c cs hc hc' ih =>
      obtain ⟨⟨b, r⟩, hb, heq⟩ := Option.map_eq_some_iff.1 h
      obtain ⟨rfl, rfl⟩ := Prod.mk.inj heq
      have hne : c ≠ '\'' := by
        rintro rfl
        exact hc' rfl
      rw [List.cons_append, takeLiteral?.eq_3 _ _ (fun _ h _ => hne h) (fun h => hne h), ih hb]
      rfl
  | case4 => simp at h

namespace Whitelist

variable {w : Whitelist} {start : Nat} {cs ds : List Char} {d : Char}

/-- A token is read up to its end, whatever follows, unless that belongs to a word. -/
theorem takeToken?_append {c : Char} {rest text tail : List Char} {k : Kind} (ds : List Char)
    (hd : isWordChar d = false) (h : w.takeToken? c rest = some (k, text, tail)) :
    w.takeToken? c (rest ++ d :: ds) = some (k, text, tail ++ d :: ds) := by
  unfold takeToken? at h ⊢
  split at h
  · next hc =>
      obtain ⟨rfl, rfl, rfl⟩ := by simpa using h
      rw [if_pos hc]
  next hopen =>
  rw [if_neg hopen]
  split at h
  · next hc =>
      obtain ⟨rfl, rfl, rfl⟩ := by simpa using h
      rw [if_pos hc]
  next hclose =>
  rw [if_neg hclose]
  split at h
  · next hc =>
      obtain ⟨rfl, rfl, rfl⟩ := by simpa using h
      rw [if_pos hc]
  next hcomma =>
  rw [if_neg hcomma]
  split at h
  · next hc =>
      have hquote : d ≠ '\'' := by
        rintro rfl
        simp [isWordChar, Text.isBlank, Text.inRanges, Text.blankRanges, isPunctuation] at hd
      obtain ⟨⟨body, rest'⟩, hbody, heq⟩ := Option.map_eq_some_iff.1 h
      obtain ⟨rfl, rfl, rfl⟩ := by simpa using heq
      rw [if_pos hc, Text.takeLiteral?_append ds hquote hbody]
      rfl
  next hquote =>
  rw [if_neg hquote]
  obtain ⟨rfl, rfl, rfl⟩ := by simpa using h
  have htake : (rest ++ d :: ds).takeWhile isWordChar = rest.takeWhile isWordChar := by
    rw [List.takeWhile_append]
    split
    · next hall => simp [hd, (List.takeWhile_prefix isWordChar).eq_of_length hall]
    · rfl
  have hdrop : (rest ++ d :: ds).dropWhile isWordChar =
      rest.dropWhile isWordChar ++ d :: ds := by
    have happ := List.takeWhile_append_dropWhile (p := isWordChar) (l := rest ++ d :: ds)
    rw [htake] at happ
    have hrest := List.takeWhile_append_dropWhile (p := isWordChar) (l := rest)
    have hboth : rest.takeWhile isWordChar ++ (rest ++ d :: ds).dropWhile isWordChar =
        rest.takeWhile isWordChar ++ (rest.dropWhile isWordChar ++ d :: ds) := by
      rw [happ, ← List.append_assoc, hrest]
    exact List.append_cancel_left hboth
  simp only [htake, hdrop]

/-! ### Reading from a later position -/

/-- Reading from a later position moves everything that is read. -/
theorem scanFrom_add (w : Whitelist) (start offset : Nat) (cs : List Char) :
    w.scanFrom (start + offset) cs =
      (w.scanFrom start cs).mapBoth (Token.shift offset) (Refusal.shift offset) := by
  fun_induction scanFrom w start cs with
  | case1 start cs hblank => rw [scanFrom_of_blank w _ hblank]; rfl
  | case2 start cs c rest hskip first htake =>
      rw [scanFrom_of_open w _ hskip htake, Nat.add_right_comm]
      rfl
  | case3 start cs c rest hskip first k text tail htake ih =>
      rw [scanFrom_of_token w _ hskip htake, Nat.add_right_comm start, Nat.add_right_comm _ offset,
        ih, Yield.mapBoth_prepend]
      rfl

theorem scanFrom_eq_shift (w : Whitelist) (offset : Nat) (text : String) :
    w.scanFrom offset text.toList =
      (w.scan text).mapBoth (Token.shift offset) (Refusal.shift offset) := by
  rw [scan, ← scanFrom_add, Nat.zero_add]

/-- Blanks in front move what is read. -/
theorem scanFrom_blanks (w : Whitelist) (start : Nat) (bs cs : List Char)
    (hbs : bs.all Text.isBlank = true) :
    w.scanFrom start (bs ++ cs) = w.scanFrom (start + Text.byteLength bs) cs := by
  rw [List.all_eq_true] at hbs
  have hskip : Text.skipBlanks (bs ++ cs) = Text.skipBlanks cs :=
    List.dropWhile_append_of_pos hbs
  have hfirst : start + Text.byteLength ((bs ++ cs).takeWhile Text.isBlank) =
      start + Text.byteLength bs + Text.byteLength (cs.takeWhile Text.isBlank) := by
    rw [List.takeWhile_append_of_pos hbs, Text.byteLength_append, Nat.add_assoc]
  cases hcs : Text.skipBlanks cs with
  | nil => rw [scanFrom_of_blank w _ (hskip.trans hcs), scanFrom_of_blank w _ hcs]
  | cons c rest =>
      have hboth := hskip.trans hcs
      cases ht : w.takeToken? c rest with
      | none =>
          rw [scanFrom_of_open w _ hboth ht, scanFrom_of_open w _ hcs ht, hfirst]
      | some r =>
          obtain ⟨k, text, tail⟩ := r
          rw [scanFrom_of_token w _ hboth ht, scanFrom_of_token w _ hcs ht, hfirst]

/-! ### Two texts in a row -/

theorem byteLength_eq_add_of_takeToken? {c : Char} {rest text tail : List Char} {k : Kind}
    (hskip : Text.skipBlanks cs = c :: rest) (htake : w.takeToken? c rest = some (k, text, tail)) :
    Text.byteLength cs =
      Text.byteLength (cs.takeWhile Text.isBlank) + Text.byteLength text +
        Text.byteLength tail := by
  have hcs := List.takeWhile_append_dropWhile (p := Text.isBlank) (l := cs)
  rw [← Text.skipBlanks, hskip, takeToken?_eq_append htake] at hcs
  rw [← hcs, Text.byteLength_append, Text.byteLength_append, Nat.add_assoc, hcs]

theorem skipBlanks_append {c : Char} {rest : List Char} (ds : List Char)
    (h : Text.skipBlanks cs = c :: rest) : Text.skipBlanks (cs ++ ds) = c :: rest ++ ds ∧
      (cs ++ ds).takeWhile Text.isBlank = cs.takeWhile Text.isBlank := by
  have hcs := List.takeWhile_append_dropWhile (p := Text.isBlank) (l := cs)
  rw [← Text.skipBlanks, h] at hcs
  have hc := Text.isBlank_head_skipBlanks h
  have hblank : ∀ b ∈ cs.takeWhile Text.isBlank, Text.isBlank b = true :=
    fun b hb => List.mem_takeWhile_imp hb
  generalize cs.takeWhile Text.isBlank = bs at hcs hblank
  subst hcs
  rw [Text.skipBlanks, List.append_assoc, List.dropWhile_append_of_pos hblank,
    List.takeWhile_append_of_pos hblank]
  simp [hc]

/-- **The tokens of two texts in a row** are those of the first, read up to its end, and those of
the second, if what comes first there belongs to no word. -/
theorem scanFrom_append (hd : isWordChar d = false) (ds : List Char)
    (hclosed : (w.scanFrom start cs).refusal? = none) :
    w.scanFrom start (cs ++ d :: ds) =
      (w.scanFrom (start + Text.byteLength cs) (d :: ds)).prepend (w.scanFrom start cs).items := by
  fun_induction scanFrom w start cs with
  | case1 start cs hblank =>
      have hbs : cs.all Text.isBlank = true := by
        simpa [Text.skipBlanks, List.dropWhile_eq_nil_iff] using hblank
      rw [scanFrom_blanks w start cs _ hbs]
      rfl
  | case2 start cs c rest hskip first htake => simp [Yield.ofRefusal] at hclosed
  | case3 start cs c rest hskip first k text tail htake ih =>
      obtain ⟨hskip', hbefore⟩ := skipBlanks_append (d :: ds) hskip
      rw [scanFrom_of_token w start hskip' (takeToken?_append ds hd htake), hbefore, ih hclosed,
        byteLength_eq_add_of_takeToken? hskip htake, Yield.prepend_prepend]
      simp only [first, Nat.add_assoc]
      rfl

/-! ### Texts that start with a given token -/

/-- A punctuation mark is the first token of a text that starts with it. -/
theorem scanFrom_punctuation (w : Whitelist) (start : Nat) {c : Char} {k : Kind}
    (hc : (c, k) ∈ [('(', Kind.openParen), (')', .closeParen), (',', .comma)]) (cs : List Char) :
    w.scanFrom start (c :: cs) =
      (w.scanFrom (start + 1) cs).prepend [⟨.single k, start, String.ofList [c]⟩] := by
  simp only [List.mem_cons, Prod.mk.injEq, List.not_mem_nil, or_false] at hc
  rcases hc with ⟨rfl, rfl⟩ | ⟨rfl, rfl⟩ | ⟨rfl, rfl⟩ <;> exact scanFrom_of_token w start rfl rfl

variable {c : Char} {rest : List Char}

theorem isBlank_eq_false_of_isWordChar (h : isWordChar c = true) : Text.isBlank c = false := by
  simp only [isWordChar, Bool.and_eq_true, Bool.not_eq_true'] at h
  exact h.1

/-- A character of a word is no punctuation mark. -/
theorem ne_of_isWordChar (h : isWordChar c = true) : c ≠ '(' ∧ c ≠ ')' ∧ c ≠ ',' := by
  simp only [isWordChar, isPunctuation, Bool.and_eq_true, Bool.not_eq_true', Bool.or_eq_false_iff,
    beq_eq_false_iff_ne] at h
  exact ⟨h.2.1.1, h.2.1.2, h.2.2⟩

/-- A word is taken up to what no longer belongs to it. -/
theorem takeToken?_of_word (hc : c ≠ '\'') (hword : ∀ d ∈ c :: cs, isWordChar d = true)
    (hrest : ∀ d ∈ rest.head?, isWordChar d = false) :
    w.takeToken? c (cs ++ rest) = some (w.wordKind (c :: cs), c :: cs, rest) := by
  obtain ⟨hopen, hclose, hcomma⟩ := ne_of_isWordChar (hword c List.mem_cons_self)
  have hcs : ∀ d ∈ cs, isWordChar d = true := fun d hd => hword d (List.mem_cons_of_mem c hd)
  have htake : rest.takeWhile isWordChar = [] := by
    cases rest with
    | nil => rfl
    | cons d ds => exact List.takeWhile_cons_of_neg (by simp [hrest d rfl])
  have hdrop : rest.dropWhile isWordChar = rest := by
    cases rest with
    | nil => rfl
    | cons d ds => exact List.dropWhile_cons_of_neg (by simp [hrest d rfl])
  unfold takeToken?
  rw [if_neg hopen, if_neg hclose, if_neg hcomma, if_neg hc]
  simp only [List.takeWhile_append_of_pos hcs, List.dropWhile_append_of_pos hcs, htake, hdrop,
    List.append_nil]

/-- A word that is followed by no further character of a word is the first token of a text that
starts with it. -/
theorem scanFrom_word (w : Whitelist) (start : Nat) (c : Char) (cs : List Char)
    (hword : (c :: cs).all isWordChar = true) (hquote : c ≠ '\'') (hd : isWordChar d = false)
    (ds : List Char) :
    w.scanFrom start (c :: cs ++ d :: ds) =
      (w.scanFrom (start + Text.byteLength (c :: cs)) (d :: ds)).prepend
        [⟨.single (w.wordKind (c :: cs)), start, String.ofList (c :: cs)⟩] := by
  have hchars := List.all_eq_true.1 hword
  have hblank := isBlank_eq_false_of_isWordChar (hchars c List.mem_cons_self)
  have hskip : Text.skipBlanks (c :: cs ++ d :: ds) = c :: (cs ++ d :: ds) := by
    simp [Text.skipBlanks, hblank]
  have hbehind : ∀ b ∈ (d :: ds).head?, isWordChar b = false := by simpa using hd
  have htoken := takeToken?_of_word (w := w) hquote hchars hbehind
  rw [scanFrom_of_token w start hskip htoken]
  simp [hblank]

end Whitelist

end FilterQuery
