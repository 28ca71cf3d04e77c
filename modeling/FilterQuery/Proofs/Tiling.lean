/-
**The tokens of a text tile it.**

A text is made of blanks and of lexemes.  What a lexeme is depends on the characters that follow
it, since a word goes on as far as it can and a literal ends at a quote that is not followed by a
second one.  Lexemes and the way through a text are described here by themselves, without the
reader: a tiling leads from one place of a text to another, over blanks and over lexemes that are
its tokens.  The reader follows the one tiling that a text has, up to the end or to a quote that
opens a literal and has no partner.

Main definitions:

* `Text.IsLiteralBody` — what may stand between the quotes of a literal;
* `Whitelist.Lexeme` — characters that are a token of some kind where others follow;
* `Place`, `Whitelist.Tiles` — places of a text, and the tokens on the way from one to another;
* `Whitelist.IsTile` — a token that covers a lexeme of a text.

Main results:

* `Whitelist.takeToken?_eq_some_iff`, `Whitelist.takeToken?_eq_none_iff` — the first token of a
  text is its first lexeme;
* `Whitelist.Tiles.scanFrom_eq` — what is read from a place is what a tiling leads over, and then
  what is read from the place that it leads to;
* `Whitelist.scan_eq_closed_iff`, `Whitelist.scan_eq_open_iff` — the tokens of a text are those of
  its tiling;
* `Whitelist.scan_tiles` — **the tokens of a text tile it**.
-/

import FilterQuery.Proofs.Concatenation

set_option relaxedAutoImplicit false
set_option autoImplicit false

namespace FilterQuery

/-! ### Literals -/

namespace Text

/-- The characters may stand between the quotes of a literal: they are quotes written twice, and
any others. -/
inductive IsLiteralBody : List Char → Prop where
  | nil : IsLiteralBody []
  | other {c : Char} {cs : List Char} : c ≠ '\'' → IsLiteralBody cs → IsLiteralBody (c :: cs)
  | quotes {cs : List Char} : IsLiteralBody cs → IsLiteralBody ('\'' :: '\'' :: cs)

/-- A literal ends at the first quote that is not followed by another one. -/
theorem takeLiteral?_of_isLiteralBody {body rest : List Char} (h : IsLiteralBody body)
    (hrest : rest.head? ≠ some '\'') :
    takeLiteral? (body ++ '\'' :: rest) = some (body ++ ['\''], rest) := by
  induction h with
  | nil =>
      refine takeLiteral?.eq_2 rest ?_
      rintro cs rfl
      exact hrest rfl
  | @other c cs hc _ ih =>
      rw [List.cons_append, takeLiteral?.eq_3 c _ (fun _ hc' _ => hc hc') hc, ih]
      rfl
  | @quotes cs _ ih =>
      rw [List.cons_append, List.cons_append, takeLiteral?, ih]
      rfl

/-- Where every quote is written twice no quote ends a literal. -/
theorem takeLiteral?_eq_none_of_isLiteralBody {cs : List Char} (h : IsLiteralBody cs) :
    takeLiteral? cs = none := by
  induction h with
  | nil => rfl
  | @other c cs hc _ ih => rw [takeLiteral?.eq_3 c cs (fun _ hc' _ => hc hc') hc, ih]; rfl
  | quotes _ ih => rw [takeLiteral?, ih]; rfl

/-- What is read of a literal are a body and the closing quote. -/
theorem exists_isLiteralBody_of_takeLiteral? {cs front rest : List Char}
    (h : takeLiteral? cs = some (front, rest)) :
    ∃ body, front = body ++ ['\''] ∧ IsLiteralBody body ∧ rest.head? ≠ some '\'' := by
  fun_induction takeLiteral? cs generalizing front rest with
  | case1 cs ih =>
      obtain ⟨⟨front, rest⟩, hfront, heq⟩ := Option.map_eq_some_iff.1 h
      obtain ⟨rfl, rfl⟩ := Prod.mk.inj heq
      obtain ⟨body, rfl, hbody, hrest⟩ := ih hfront
      exact ⟨_, rfl, .quotes hbody, hrest⟩
  | case2 cs hcs =>
      obtain ⟨rfl, rfl⟩ := Prod.mk.inj (Option.some.inj h)
      refine ⟨[], rfl, .nil, fun hhead => ?_⟩
      obtain ⟨rest, hrest⟩ := List.head?_eq_some_iff.1 hhead
      exact hcs rest hrest
  | case3 c cs _ hc ih =>
      obtain ⟨⟨front, rest⟩, hfront, heq⟩ := Option.map_eq_some_iff.1 h
      obtain ⟨rfl, rfl⟩ := Prod.mk.inj heq
      obtain ⟨body, rfl, hbody, hrest⟩ := ih hfront
      exact ⟨_, rfl, .other hc hbody, hrest⟩
  | case4 => simp at h

theorem isLiteralBody_of_takeLiteral?_eq_none {cs : List Char} (h : takeLiteral? cs = none) :
    IsLiteralBody cs := by
  fun_induction takeLiteral? cs with
  | case1 cs ih => exact .quotes (ih (Option.map_eq_none_iff.1 h))
  | case2 cs _ => simp at h
  | case3 c cs _ hc ih => exact .other hc (ih (Option.map_eq_none_iff.1 h))
  | case4 => exact .nil

end Text

/-! ### Lexemes -/

/-- The characters are a token of the kind where `rest` follows: a punctuation mark, a literal that
is not followed by a quote, or a word that goes on as far as it can. -/
inductive Whitelist.Lexeme (w : Whitelist) : Kind → List Char → List Char → Prop where
  | openParen (rest : List Char) : Whitelist.Lexeme w .openParen ['('] rest
  | closeParen (rest : List Char) : Whitelist.Lexeme w .closeParen [')'] rest
  | comma (rest : List Char) : Whitelist.Lexeme w .comma [','] rest
  | literal {body rest : List Char} : Text.IsLiteralBody body → rest.head? ≠ some '\'' →
      Whitelist.Lexeme w .literal ('\'' :: (body ++ ['\''])) rest
  | word {c : Char} {cs rest : List Char} : c ≠ '\'' → (∀ d ∈ c :: cs, isWordChar d = true) →
      (∀ d ∈ rest.head?, isWordChar d = false) →
      Whitelist.Lexeme w (w.wordKind (c :: cs)) (c :: cs) rest

namespace Whitelist

variable {w : Whitelist} {k : Kind} {c d : Char} {cs ds rest text tail : List Char}

theorem isWordChar_quote : isWordChar '\'' = true := by decide

/-- A lexeme starts with a character that is not blank. -/
theorem Lexeme.exists_cons (h : w.Lexeme k cs rest) :
    ∃ c ds, cs = c :: ds ∧ Text.isBlank c = false := by
  cases h with
  | openParen => exact ⟨_, _, rfl, by decide⟩
  | closeParen => exact ⟨_, _, rfl, by decide⟩
  | comma => exact ⟨_, _, rfl, by decide⟩
  | literal => exact ⟨_, _, rfl, by decide⟩
  | word _ hword _ =>
      exact ⟨_, _, rfl, isBlank_eq_false_of_isWordChar (hword _ List.mem_cons_self)⟩

/-- A lexeme is one as well before anything else that cannot belong to a word. -/
theorem Lexeme.of_head? (h : w.Lexeme k cs rest)
    (htail : ∀ d ∈ tail.head?, isWordChar d = false) : w.Lexeme k cs tail := by
  cases h with
  | openParen => exact .openParen tail
  | closeParen => exact .closeParen tail
  | comma => exact .comma tail
  | literal hbody _ =>
      refine .literal hbody fun hhead => ?_
      have hquote := htail _ (Option.mem_def.2 hhead)
      rw [isWordChar_quote] at hquote
      contradiction
  | word hc hword _ => exact .word hc hword htail

/-- A lexeme remains one if the text behind it goes on with what cannot belong to a word. -/
theorem Lexeme.append (h : w.Lexeme k cs rest) (hd : isWordChar d = false) (ds : List Char) :
    w.Lexeme k cs (rest ++ d :: ds) := by
  cases rest with
  | nil => exact h.of_head? (by simpa using hd)
  | cons a rest =>
      cases h with
      | openParen => exact .openParen _
      | closeParen => exact .closeParen _
      | comma => exact .comma _
      | literal hbody hrest => exact .literal hbody hrest
      | word hc hword hrest => exact .word hc hword hrest

theorem takeToken?_of_lexeme (h : w.Lexeme k (c :: cs) rest) :
    w.takeToken? c (cs ++ rest) = some (k, c :: cs, rest) := by
  cases h with
  | openParen => rfl
  | closeParen => rfl
  | comma => rfl
  | @literal body _ hbody hrest =>
      have htake := Text.takeLiteral?_of_isLiteralBody hbody hrest
      have htext : body ++ ['\''] ++ rest = body ++ '\'' :: rest := List.append_cons .. |>.symm
      rw [htext, takeToken?, if_neg (by decide), if_neg (by decide), if_neg (by decide),
        if_pos rfl, htake]
      rfl
  | word hc hword hrest => exact takeToken?_of_word hc hword hrest

theorem lexeme_of_takeToken? (hc : Text.isBlank c = false)
    (h : w.takeToken? c rest = some (k, text, tail)) : w.Lexeme k text tail := by
  unfold takeToken? at h
  split at h
  · next hopen =>
      obtain ⟨rfl, rfl, rfl⟩ := by simpa using h
      rw [hopen]
      exact .openParen _
  split at h
  · next hclose =>
      obtain ⟨rfl, rfl, rfl⟩ := by simpa using h
      rw [hclose]
      exact .closeParen _
  split at h
  · next hcomma =>
      obtain ⟨rfl, rfl, rfl⟩ := by simpa using h
      rw [hcomma]
      exact .comma _
  split at h
  · next hquote =>
      obtain ⟨⟨front, rest'⟩, hfront, heq⟩ := Option.map_eq_some_iff.1 h
      obtain ⟨rfl, rfl, rfl⟩ := by simpa using heq
      obtain ⟨body, rfl, hbody, hrest⟩ := Text.exists_isLiteralBody_of_takeLiteral? hfront
      rw [hquote]
      exact .literal hbody hrest
  · next hopen hclose hcomma hquote =>
      obtain ⟨rfl, rfl, rfl⟩ := by simpa using h
      have hword : isWordChar c = true := by
        simp [isWordChar, isPunctuation, hc, hopen, hclose, hcomma]
      refine .word hquote ?_ fun d hd => ?_
      · rw [List.forall_mem_cons]
        exact ⟨hword, fun d hd => List.mem_takeWhile_imp hd⟩
      · have hhead := List.head?_dropWhile_not isWordChar rest
        rw [Option.mem_def.1 hd] at hhead
        simpa using hhead

/-- The first token of a text that starts with no blank is its first lexeme. -/
theorem takeToken?_eq_some_iff (hc : Text.isBlank c = false) :
    w.takeToken? c rest = some (k, text, tail) ↔
      c :: rest = text ++ tail ∧ w.Lexeme k text tail := by
  constructor
  · intro h
    exact ⟨takeToken?_eq_append h, lexeme_of_takeToken? hc h⟩
  · rintro ⟨htext, hlexeme⟩
    obtain ⟨d, ds, rfl, -⟩ := hlexeme.exists_cons
    obtain ⟨rfl, rfl⟩ := List.cons.inj htext
    exact takeToken?_of_lexeme hlexeme

/-- A text has no first token exactly if it starts with a quote that has no partner. -/
theorem takeToken?_eq_none_iff :
    w.takeToken? c rest = none ↔ c = '\'' ∧ Text.IsLiteralBody rest := by
  constructor
  · intro h
    unfold takeToken? at h
    split at h
    · simp at h
    split at h
    · simp at h
    split at h
    · simp at h
    split at h
    · next hquote =>
        have hbody := Option.map_eq_none_iff.1 h
        exact ⟨hquote, Text.isLiteralBody_of_takeLiteral?_eq_none hbody⟩
    · simp at h
  · rintro ⟨rfl, hbody⟩
    simp [takeToken?, Text.takeLiteral?_eq_none_of_isLiteralBody hbody]

end Whitelist

/-! ### Tilings -/

/-- A place in a text: its byte position, and the characters that follow. -/
structure Place where
  position : Nat
  rest : List Char

/-- Blanks and the tokens, in this order and nothing else, lead from one place to another. -/
inductive Whitelist.Tiles (w : Whitelist) : Place → List Token → Place → Prop where
  | refl (p : Place) : Whitelist.Tiles w p [] p
  | blank {i : Nat} {c : Char} {cs : List Char} {ts : List Token} {q : Place} :
      Text.isBlank c = true → Whitelist.Tiles w ⟨i + c.utf8Size, cs⟩ ts q →
      Whitelist.Tiles w ⟨i, c :: cs⟩ ts q
  | token {i : Nat} {k : Kind} {cs rest : List Char} {ts : List Token} {q : Place} :
      w.Lexeme k cs rest → Whitelist.Tiles w ⟨i + Text.byteLength cs, rest⟩ ts q →
      Whitelist.Tiles w ⟨i, cs ++ rest⟩ (⟨.single k, i, String.ofList cs⟩ :: ts) q

/-- The token is a lexeme of the text, and its span is where the lexeme stands. -/
structure Whitelist.IsTile (w : Whitelist) (text : String) (t : Token) : Prop where
  exists_lexeme : ∃ k before after, t.kinds = .single k ∧ t.start = Text.byteLength before ∧
    text.toList = before ++ (t.text.toList ++ after) ∧ w.Lexeme k t.text.toList after
  start_lt_stop : t.start < t.stop
  stop_le : t.stop ≤ text.utf8ByteSize
  cut_eq : Text.cut text t.start t.stop = t.text

namespace Whitelist

variable {w : Whitelist} {p q r : Place} {i j : Nat} {k : Kind} {c d : Char}
  {cs ds rest after : List Char} {t : Token} {ts us : List Token}

theorem Tiles.append (h : w.Tiles p ts q) (h' : w.Tiles q us r) : w.Tiles p (ts ++ us) r := by
  induction h with
  | refl p => exact h'
  | blank hc _ ih => exact .blank hc (ih h')
  | token hlexeme _ ih => exact .token hlexeme (ih h')

/-- A tiling remains one if the text goes on with what cannot belong to a word. -/
theorem Tiles.extend (h : w.Tiles p ts q) (hd : isWordChar d = false) (ds : List Char) :
    w.Tiles ⟨p.position, p.rest ++ d :: ds⟩ ts ⟨q.position, q.rest ++ d :: ds⟩ := by
  induction h with
  | refl p => exact .refl _
  | blank hc _ ih => exact .blank hc ih
  | token hlexeme _ ih =>
      rw [List.append_assoc]
      exact .token (hlexeme.append hd ds) ih

theorem tiles_blanks (i : Nat) (bs cs : List Char) (hbs : ∀ b ∈ bs, Text.isBlank b = true) :
    w.Tiles ⟨i, bs ++ cs⟩ [] ⟨i + Text.byteLength bs, cs⟩ := by
  induction bs generalizing i with
  | nil => exact .refl _
  | cons b bs ih =>
      obtain ⟨hb, hbs⟩ := List.forall_mem_cons.1 hbs
      have hrest := ih (i + b.utf8Size) hbs
      rw [Nat.add_assoc] at hrest
      exact .blank hb hrest

/-! ### Tilings and the reader -/

/-- What is read from a place is what a tiling leads over, and then what is read from the place
that it leads to. -/
theorem Tiles.scanFrom_eq (h : w.Tiles p ts q) :
    w.scanFrom p.position p.rest = (w.scanFrom q.position q.rest).prepend ts := by
  induction h with
  | refl p => rfl
  | @blank i c cs ts q hc _ ih =>
      rw [← ih]
      exact scanFrom_blanks w i [c] cs (by simpa using hc)
  | @token i k cs rest ts q hlexeme _ ih =>
      obtain ⟨c, cs, rfl, hc⟩ := hlexeme.exists_cons
      have hskip : Text.skipBlanks (c :: cs ++ rest) = c :: (cs ++ rest) :=
        List.dropWhile_cons_of_neg (by simp [hc])
      have hblanks : (c :: cs ++ rest).takeWhile Text.isBlank = [] :=
        List.takeWhile_cons_of_neg (by simp [hc])
      rw [scanFrom_of_token w i hskip (takeToken?_of_lexeme hlexeme), hblanks,
        Text.byteLength_nil, Nat.add_zero, ih, Yield.prepend_prepend]
      rfl

/-- The reader follows a tiling up to the end or to a quote without a partner. -/
theorem tiles_scanFrom (w : Whitelist) (i : Nat) (cs : List Char) :
    ((w.scanFrom i cs).refusal? = none ∧
      w.Tiles ⟨i, cs⟩ (w.scanFrom i cs).items ⟨i + Text.byteLength cs, []⟩) ∨
    ∃ p body, (w.scanFrom i cs).refusal? = some (.unterminatedLiteral p) ∧
      w.Tiles ⟨i, cs⟩ (w.scanFrom i cs).items ⟨p, '\'' :: body⟩ ∧ Text.IsLiteralBody body := by
  have hblanks : ∀ cs : List Char, ∀ b ∈ cs.takeWhile Text.isBlank, Text.isBlank b = true :=
    fun cs b hb => List.mem_takeWhile_imp hb
  fun_induction scanFrom w i cs with
  | case1 i cs hskip =>
      have hall : ∀ b ∈ cs, Text.isBlank b = true := by
        simpa [Text.skipBlanks, List.dropWhile_eq_nil_iff] using hskip
      have htiles := tiles_blanks (w := w) i cs [] hall
      rw [List.append_nil] at htiles
      exact .inl ⟨rfl, htiles⟩
  | case2 i cs c rest hskip first htake =>
      obtain ⟨rfl, hbody⟩ := takeToken?_eq_none_iff.1 htake
      have hcs := List.takeWhile_append_dropWhile (p := Text.isBlank) (l := cs)
      rw [← Text.skipBlanks, hskip] at hcs
      have htiles := tiles_blanks (w := w) i _ ('\'' :: rest) (hblanks cs)
      rw [hcs] at htiles
      exact .inr ⟨_, rest, rfl, htiles, hbody⟩
  | case3 i cs c rest hskip first k text tail htake ih =>
      obtain ⟨htext, hlexeme⟩ :=
        (takeToken?_eq_some_iff (Text.isBlank_head_skipBlanks hskip)).1 htake
      have hcs := List.takeWhile_append_dropWhile (p := Text.isBlank) (l := cs)
      rw [← Text.skipBlanks, hskip, htext] at hcs
      have hfront := tiles_blanks (w := w) i _ (text ++ tail) (hblanks cs)
      rw [hcs] at hfront
      have hlength := byteLength_eq_add_of_takeToken? hskip htake
      rcases ih with ⟨hclosed, htiles⟩ | ⟨p, body, hopen, htiles, hbody⟩
      · refine .inl ⟨hclosed, ?_⟩
        have hend : first + Text.byteLength text + Text.byteLength tail =
            i + Text.byteLength cs := by
          omega
        rw [hend] at htiles
        exact hfront.append (.token hlexeme htiles)
      · exact .inr ⟨p, body, hopen, hfront.append (.token hlexeme htiles), hbody⟩

/-- A text is read to its end exactly if a tiling leads there, and its tokens are then those of the
tiling. -/
theorem scan_eq_closed_iff {text : String} :
    w.scan text = ⟨ts, none⟩ ↔ w.Tiles ⟨0, text.toList⟩ ts ⟨text.utf8ByteSize, []⟩ := by
  have hsize : 0 + Text.byteLength text.toList = text.utf8ByteSize := by
    rw [Nat.zero_add, Text.byteLength_toList]
  constructor
  · intro h
    rcases tiles_scanFrom w 0 text.toList with ⟨-, htiles⟩ | ⟨p, body, hopen, -, -⟩
    · rwa [← scan, h, hsize] at htiles
    · rw [← scan, h] at hopen
      simp at hopen
  · intro htiles
    have hnil : w.scanFrom text.utf8ByteSize [] = .empty := scanFrom_of_blank w _ rfl
    rw [scan, htiles.scanFrom_eq, hnil]
    simp [Yield.prepend, Yield.empty]

/-- The reading of a text is refused exactly if a tiling leads to a quote that has no partner.  The
tokens are then those of the tiling, and the refusal tells where the quote stands. -/
theorem scan_eq_open_iff {text : String} {r : Refusal} :
    w.scan text = ⟨ts, some r⟩ ↔ ∃ p body, w.Tiles ⟨0, text.toList⟩ ts ⟨p, '\'' :: body⟩ ∧
      Text.IsLiteralBody body ∧ r = .unterminatedLiteral p := by
  constructor
  · intro h
    rcases tiles_scanFrom w 0 text.toList with ⟨hclosed, -⟩ | ⟨p, body, hopen, htiles, hbody⟩
    · rw [← scan, h] at hclosed
      simp at hclosed
    · rw [← scan, h] at hopen htiles
      exact ⟨p, body, htiles, hbody, Option.some.inj hopen⟩
  · rintro ⟨p, body, htiles, hbody, rfl⟩
    have hskip : Text.skipBlanks ('\'' :: body) = '\'' :: body := rfl
    have hopen := scanFrom_of_open w p hskip (takeToken?_eq_none_iff.2 ⟨rfl, hbody⟩)
    rw [scan, htiles.scanFrom_eq, hopen]
    simp [Yield.prepend, Yield.ofRefusal, Text.isBlank, Text.inRanges, Text.blankRanges]

/-! ### What a tiling covers -/

/-- The tokens of a tiling are lexemes, each at its byte position. -/
theorem Tiles.exists_lexeme (h : w.Tiles p ts q) (ht : t ∈ ts) :
    ∃ k before after, t.kinds = .single k ∧ t.start = p.position + Text.byteLength before ∧
      p.rest = before ++ (t.text.toList ++ after) ∧ w.Lexeme k t.text.toList after := by
  induction h with
  | refl p => simp at ht
  | @blank i c cs ts q _ _ ih =>
      obtain ⟨k, before, after, hkinds, hstart, hrest, hlexeme⟩ := ih ht
      refine ⟨k, c :: before, after, hkinds, ?_, congrArg (c :: ·) hrest, hlexeme⟩
      rw [hstart, Text.byteLength_cons, Nat.add_assoc]
  | @token i k cs rest ts q hlexeme _ ih =>
      rcases List.mem_cons.1 ht with rfl | ht
      · refine ⟨k, [], rest, rfl, rfl, ?_, ?_⟩
        · rw [String.toList_ofList]
          rfl
        · rwa [String.toList_ofList]
      · obtain ⟨k, before, after, hkinds, hstart, hrest, hlexeme⟩ := ih ht
        refine ⟨k, cs ++ before, after, hkinds, ?_, ?_, hlexeme⟩
        · rw [hstart, Text.byteLength_append, Nat.add_assoc]
        · rw [List.append_assoc, ← hrest]

/-- No token of a tiling starts before the tiling does. -/
theorem Tiles.position_le (h : w.Tiles p ts q) (ht : t ∈ ts) : p.position ≤ t.start := by
  obtain ⟨k, before, after, -, hstart, -, -⟩ := h.exists_lexeme ht
  omega

theorem stop_ofList (kinds : KindSet) (i : Nat) (cs : List Char) :
    (Token.mk kinds i (String.ofList cs)).stop = i + Text.byteLength cs := by
  rw [Token.stop, Text.utf8ByteSize_ofList]

/-- The tokens of a tiling do not overlap. -/
theorem Tiles.pairwise (h : w.Tiles p ts q) : ts.Pairwise fun t u => t.stop ≤ u.start := by
  induction h with
  | refl p => exact .nil
  | blank _ _ ih => exact ih
  | @token i k cs rest ts q _ htail ih =>
      refine List.pairwise_cons.2 ⟨fun u hu => ?_, ih⟩
      rw [stop_ofList]
      exact htail.position_le hu

/-- A character on the way of a tiling is blank or belongs to a token. -/
theorem Tiles.isBlank_or_covered {before : List Char} (h : w.Tiles p ts q)
    (hrest : p.rest = before ++ c :: after)
    (hlt : p.position + Text.byteLength before < q.position) :
    Text.isBlank c = true ∨ ∃ t ∈ ts, t.start ≤ p.position + Text.byteLength before ∧
      p.position + Text.byteLength before < t.stop := by
  induction h generalizing before with
  | refl p => omega
  | @blank i b cs ts q hb _ ih =>
      cases before with
      | nil =>
          obtain ⟨rfl, -⟩ := List.cons.inj hrest
          exact .inl hb
      | cons b' before =>
          obtain ⟨rfl, hcs⟩ := List.cons.inj hrest
          rw [Text.byteLength_cons, ← Nat.add_assoc] at hlt ⊢
          exact ih hcs hlt
  | @token i k cs rest ts q _ _ ih =>
      rcases List.append_eq_append_iff.1 hrest with ⟨middle, rfl, hmiddle⟩ | ⟨middle, rfl, hmiddle⟩
      · -- The character stands behind the lexeme.
        rw [Text.byteLength_append, ← Nat.add_assoc] at hlt ⊢
        rcases ih hmiddle hlt with hc | ⟨t, ht, hspan⟩
        · exact .inl hc
        · exact .inr ⟨t, List.mem_cons_of_mem _ ht, hspan⟩
      · cases middle with
        | nil =>
            have hhead : rest = [] ++ c :: after := hmiddle.symm
            rw [List.append_nil] at ih hlt ⊢
            rcases ih hhead hlt with hc | ⟨t, ht, hspan⟩
            · exact .inl hc
            · exact .inr ⟨t, List.mem_cons_of_mem _ ht, hspan⟩
        | cons d middle =>
            have hpos := d.utf8Size_pos
            refine .inr ⟨_, List.mem_cons_self, Nat.le_add_right _ _, ?_⟩
            rw [stop_ofList, Text.byteLength_append, Text.byteLength_cons]
            dsimp only
            omega

/-! ### The tokens of a text -/

/-- The tokens of a text are those of a tiling, which leads to the end of the text or to the
literal that is not closed. -/
theorem exists_tiles_scan (w : Whitelist) (text : String) :
    ∃ q, w.Tiles ⟨0, text.toList⟩ (w.scan text).items q ∧
      (q.position = text.utf8ByteSize ∨
        (w.scan text).refusal? = some (.unterminatedLiteral q.position)) := by
  have hsize : 0 + Text.byteLength text.toList = text.utf8ByteSize := by
    rw [Nat.zero_add, Text.byteLength_toList]
  rcases tiles_scanFrom w 0 text.toList with ⟨-, htiles⟩ | ⟨p, body, hopen, htiles, -⟩
  · exact ⟨_, htiles, .inl hsize⟩
  · exact ⟨_, htiles, .inr hopen⟩

theorem isTile_of_mem_scan {text : String} (ht : t ∈ (w.scan text).items) : w.IsTile text t := by
  obtain ⟨q, htiles, -⟩ := exists_tiles_scan w text
  obtain ⟨k, before, after, hkinds, hstart, hrest, hlexeme⟩ := htiles.exists_lexeme ht
  dsimp only at hstart hrest
  rw [Nat.zero_add] at hstart
  have hstop : t.stop = t.start + Text.byteLength t.text.toList := by
    rw [Token.stop, Text.byteLength_toList]
  have htext : text = String.ofList (before ++ (t.text.toList ++ after)) := by
    rw [← hrest, String.ofList_toList]
  refine ⟨⟨k, before, after, hkinds, hstart, hrest, hlexeme⟩, ?_, ?_, ?_⟩
  · obtain ⟨c, cs, hcs, -⟩ := hlexeme.exists_cons
    have hpos := c.utf8Size_pos
    rw [hstop, hcs, Text.byteLength_cons]
    omega
  · rw [hstop, hstart, htext, Text.utf8ByteSize_ofList, Text.byteLength_append,
      Text.byteLength_append]
    omega
  · rw [hstop, hstart, htext, Text.cut_append, String.ofList_toList]

/-- **The tokens of a text tile it.**  Each is a lexeme of the text in its place, none starts before
the one before it has ended, and a character that belongs to none is blank, unless it stands at or
behind the opening quote of a literal that is not closed.  The reading ends at the end of the text
exactly if blanks and the tokens lead there.  It is refused exactly if they lead to a quote behind
which there are only characters that are no quotes and quotes written twice. -/
theorem scan_tiles (w : Whitelist) (text : String) :
    (∀ t ∈ (w.scan text).items, w.IsTile text t) ∧
    (w.scan text).items.Pairwise (fun t u => t.stop ≤ u.start) ∧
    (∀ before c after, text.toList = before ++ c :: after →
      Text.isBlank c = true ∨
      (∃ t ∈ (w.scan text).items, t.start ≤ Text.byteLength before ∧
        Text.byteLength before < t.stop) ∨
      ∃ p ≤ Text.byteLength before, (w.scan text).refusal? = some (.unterminatedLiteral p)) ∧
    (∀ ts, w.scan text = ⟨ts, none⟩ ↔
      w.Tiles ⟨0, text.toList⟩ ts ⟨text.utf8ByteSize, []⟩) ∧
    (∀ ts r, w.scan text = ⟨ts, some r⟩ ↔
      ∃ p body, w.Tiles ⟨0, text.toList⟩ ts ⟨p, '\'' :: body⟩ ∧ Text.IsLiteralBody body ∧
        r = .unterminatedLiteral p) := by
  obtain ⟨q, htiles, hend⟩ := exists_tiles_scan w text
  refine ⟨fun t ht => isTile_of_mem_scan ht, htiles.pairwise, ?_, fun ts => scan_eq_closed_iff,
    fun ts r => scan_eq_open_iff⟩
  intro before c after hrest
  have hcovered := htiles.isBlank_or_covered hrest
  rw [Nat.zero_add] at hcovered
  have hsize : Text.byteLength before < text.utf8ByteSize := by
    have hpos := c.utf8Size_pos
    rw [← Text.byteLength_toList, hrest, Text.byteLength_append, Text.byteLength_cons]
    omega
  by_cases hlt : Text.byteLength before < q.position
  · rcases hcovered hlt with hc | hspan
    · exact .inl hc
    · exact .inr (.inl hspan)
  · rcases hend with hend | hopen
    · omega
    · exact .inr (.inr ⟨q.position, Nat.le_of_not_lt hlt, hopen⟩)

/-- A literal between two words, and one that is not closed, without any field. -/
theorem scan_tiles_open_literal :
    ((∅ : Whitelist).scan "é'a\u3000'b''c'd 'x''").items =
        [⟨.single .field, 0, "é'a"⟩, ⟨.single .literal, 7, "'b''c'"⟩, ⟨.single .field, 13, "d"⟩] ∧
      (∅ : Whitelist).IsTile "é'a\u3000'b''c'd 'x''" ⟨.single .literal, 7, "'b''c'"⟩ ∧
      ∃ p body, (∅ : Whitelist).Tiles ⟨0, "é'a\u3000'b''c'd 'x''".toList⟩
          [⟨.single .field, 0, "é'a"⟩, ⟨.single .literal, 7, "'b''c'"⟩, ⟨.single .field, 13, "d"⟩]
          ⟨p, '\'' :: body⟩ ∧
        Text.IsLiteralBody body ∧ Refusal.unterminatedLiteral 15 = .unterminatedLiteral p := by
  obtain ⟨htile, -, -, -, hopen⟩ := scan_tiles ∅ "é'a\u3000'b''c'd 'x''"
  have hitems : ((∅ : Whitelist).scan "é'a\u3000'b''c'd 'x''").items =
      [⟨.single .field, 0, "é'a"⟩, ⟨.single .literal, 7, "'b''c'"⟩, ⟨.single .field, 13, "d"⟩] := by
    decide +kernel
  have hrefusal : ((∅ : Whitelist).scan "é'a\u3000'b''c'd 'x''").refusal? =
      some (.unterminatedLiteral 15) := by
    decide +kernel
  rw [hitems] at htile
  refine ⟨hitems, htile _ (by simp), (hopen _ _).1 ?_⟩
  rw [← hitems, ← hrefusal]

end Whitelist

end FilterQuery
