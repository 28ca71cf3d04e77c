/-
**Any text can be written as a literal.**

The reader ends a literal at the first quote that is not followed by another one, and the value of
a literal is found by dropping its outer quotes and making doubled quotes single from left to
right.  The two agree on what the written form of a text is: it is read back as one literal whose
value is the text, and a literal that is read anywhere is the written form of its value.  So a
field that takes texts as they are can be compared to any text.

Main definitions:

* `Field.IsVerbatim` — a field whose values are the texts that are written.

Main results:

* `Text.quote_unquote` — a literal is the written form of its value;
* `Whitelist.lexeme_quote` — the written form of a text is a lexeme before anything but a quote;
* `Whitelist.parse_equality` — a field that takes texts as they are can be compared to any text;
* `Whitelist.literal_roundtrip` — **literals and texts correspond to each other**.
-/

import FilterQuery.Proofs.Spacing

set_option relaxedAutoImplicit false
set_option autoImplicit false

namespace FilterQuery

/-! ### The written form of a text -/

namespace Text

variable {body : List Char}

theorem isLiteralBody_doubleQuotes (cs : List Char) : IsLiteralBody (doubleQuotes cs) := by
  induction cs with
  | nil => exact .nil
  | cons c cs ih =>
      by_cases hc : c = '\''
      · rw [doubleQuotes, if_pos hc]
        exact .quotes ih
      · rw [doubleQuotes, if_neg hc]
        exact .other hc ih

/-- Doubling undoes merging between the quotes of a literal. -/
theorem doubleQuotes_mergeQuotes (h : IsLiteralBody body) :
    doubleQuotes (mergeQuotes body) = body := by
  induction h with
  | nil => rfl
  | @other c cs hc _ ih =>
      rw [mergeQuotes.eq_2 c cs fun _ hc' _ => hc hc', doubleQuotes, if_neg hc, ih]
  | quotes _ ih => rw [mergeQuotes, doubleQuotes, if_pos rfl, ih]

theorem dropOuterQuotes_eq (body : List Char) :
    dropOuterQuotes ('\'' :: (body ++ ['\''])) = body := by
  simp [dropOuterQuotes]

/-- A literal is the written form of its value. -/
theorem quote_unquote {s : String} (hs : s.toList = '\'' :: (body ++ ['\'']))
    (hbody : IsLiteralBody body) : quote (unquote s) = s := by
  rw [unquote, hs, dropOuterQuotes_eq, quote, String.toList_ofList, doubleQuotes_mergeQuotes hbody,
    List.cons_append, ← hs, String.ofList_toList]

end Text

/-! ### Literals among the tokens -/

namespace Whitelist

variable {w : Whitelist} {cs rest : List Char} {t : Token}

/-- No word is a literal. -/
theorem wordKind_ne_literal (w : Whitelist) (word : List Char) : w.wordKind word ≠ .literal := by
  have hkeywords : ∀ p ∈ Kind.keywords, p.2 ≠ .literal := by decide
  unfold wordKind
  split
  · next k hk =>
      exact hkeywords _ (Kind.mem_keywords_of_ofKeyword? hk)
  · split
    · decide
    · split <;> decide

/-- A literal consists of a body and two quotes. -/
theorem Lexeme.exists_isLiteralBody (h : w.Lexeme .literal cs rest) :
    ∃ body, cs = '\'' :: (body ++ ['\'']) ∧ Text.IsLiteralBody body := by
  generalize hk : Kind.literal = k at h
  cases h with
  | literal hbody _ => exact ⟨_, rfl, hbody⟩
  | word => exact absurd hk.symm (wordKind_ne_literal w _)
  | _ => contradiction

/-- The written form of a text is a literal before anything but a quote. -/
theorem lexeme_quote (w : Whitelist) (s : String) (hrest : rest.head? ≠ some '\'') :
    w.Lexeme .literal (Text.quote s).toList rest := by
  rw [Text.quote, String.toList_ofList]
  exact .literal (Text.isLiteralBody_doubleQuotes s.toList) hrest

/-- A text that starts with the written form of another is read on behind it. -/
theorem scan_quote_append (w : Whitelist) (s : String) {r : String}
    (hr : r.toList.head? ≠ some '\'') :
    w.scan (Text.quote s ++ r) =
      (w.scanFrom (Text.quote s).utf8ByteSize r.toList).prepend
        [⟨.single .literal, 0, Text.quote s⟩] := by
  have htiles := Tiles.token (i := 0) (lexeme_quote w s hr) (.refl _)
  rw [Nat.zero_add, Text.byteLength_toList, String.ofList_toList] at htiles
  rw [scan, String.toList_append]
  exact htiles.scanFrom_eq

/-- A literal that is read is the written form of its value. -/
theorem quote_literalValue {text : String} (ht : t ∈ (w.scan text).items)
    (hliteral : t.is .literal = true) : Text.quote t.literalValue = t.text := by
  obtain ⟨k, before, after, hkinds, -, -, hlexeme⟩ := (isTile_of_mem_scan ht).exists_lexeme
  have hk : t.IsA k := hkinds
  rw [← (hk.is_iff .literal).1 hliteral] at hlexeme
  obtain ⟨body, htext, hbody⟩ := hlexeme.exists_isLiteralBody
  exact Text.quote_unquote htext hbody

end Whitelist

/-! ### Comparisons with any text -/

/-- The values of the field are the texts that are written. -/
structure Field.IsVerbatim (f : Field) : Prop where
  type_eq : f.type = .string
  convert_eq : f.convert = Value.read? .string
  ignoreCase_eq : f.ignoreCase = false
  transform_eq : f.transform = id

theorem Field.IsVerbatim.valueOf?_eq {f : Field} (h : f.IsVerbatim) (s : String) :
    f.valueOf? s = some (.string (some s)) := by
  rw [valueOf?, h.convert_eq, h.ignoreCase_eq, h.transform_eq]
  rfl

/-- A field that takes texts as they are admits every literal as its value. -/
theorem Field.IsVerbatim.admits {f : Field} (h : f.IsVerbatim) (allowNull : Bool) {t : Token}
    (ht : t.IsA .literal) : f.Admits allowNull t (.value (.string (some t.literalValue))) := by
  refine .literal ht ?_ (h.valueOf?_eq t.literalValue)
  rw [h.type_eq]
  decide

namespace Whitelist

variable {w : Whitelist} {f : Field} {name : String} {t : Token}

/-- A word is a lexeme by itself, of the kind of the word. -/
theorem lexeme_word (w : Whitelist) {c : Char} {cs : List Char} (hc : c ≠ '\'')
    (hword : (c :: cs).all isWordChar = true) :
    w.Lexeme (w.wordKind (c :: cs)) (c :: cs) [] :=
  .word hc (List.all_eq_true.1 hword) (by simp)

theorem lexeme_equal (w : Whitelist) : w.Lexeme .equal "eq".toList [] := by
  have hkeyword : Kind.ofKeyword? (String.ofList ['e', 'q']) = some .equal := by decide
  have hkind : w.wordKind ['e', 'q'] = .equal := by rw [wordKind, hkeyword]
  have hlexeme : w.Lexeme (w.wordKind ['e', 'q']) ['e', 'q'] [] :=
    lexeme_word w (by decide) (by decide)
  rw [hkind] at hlexeme
  exact hlexeme

/-- A comparison of a name with what is a token by itself is read as three tokens. -/
theorem scan_comparison (hname : w.Lexeme .field name.toList []) (ht : w.StandsAlone t) :
    w.scan (name ++ " eq " ++ t.text) =
      ⟨Token.spacedFrom 0 [⟨.single .field, 0, name⟩, ⟨.single .equal, 0, "eq"⟩, t], none⟩ := by
  have htokens : ∀ u ∈ [⟨.single .field, 0, name⟩, ⟨.single .equal, 0, "eq"⟩, t],
      w.StandsAlone u := by
    simp only [List.forall_mem_cons]
    exact ⟨⟨_, rfl, hname⟩, ⟨_, rfl, lexeme_equal w⟩, ht, by simp⟩
  have htext : name ++ " eq " ++ t.text = " ".intercalate
      ([⟨.single .field, 0, name⟩, ⟨.single .equal, 0, "eq"⟩, t].map Token.text) := by
    have hmiddle : " eq " = " " ++ "eq" ++ " " := rfl
    rw [hmiddle, List.map_cons, List.map_cons, List.map_cons, List.map_nil,
      String.intercalate_cons_cons, String.intercalate_cons_cons, String.intercalate_singleton]
    simp only [String.append_assoc]
  rw [htext, scan_intercalate htokens]

/-- The tokens of a comparison of a name with a text. -/
def equalityTokens (name s : String) : List Token :=
  [⟨.single .field, 0, name⟩, ⟨.single .equal, 0, "eq"⟩, ⟨.single .literal, 0, Text.quote s⟩]

/-- A comparison of a name with a text is read as its three tokens. -/
theorem scan_equality (hname : w.Lexeme .field name.toList []) (s : String) :
    w.scan (name ++ " eq " ++ Text.quote s) =
      ⟨Token.spacedFrom 0 (equalityTokens name s), none⟩ :=
  scan_comparison hname (t := ⟨.single .literal, 0, Text.quote s⟩)
    ⟨_, rfl, lexeme_quote w s (by simp)⟩

/-- A field that takes texts as they are can be compared to any text. -/
theorem parse_equality (hname : w.Lexeme .field name.toList []) (hfind : w.find? name = some f)
    (hf : f.IsVerbatim) (heq : .equal ∈ f.supported) (s : String) :
    ∃ p, w.parse (some (name ++ " eq " ++ Text.quote s)) = .ok (some p) ∧
      p.args = [.string (some s)] := by
  have hscan : (w.scan (name ++ " eq " ++ Text.quote s)).toExcept =
      .ok (Token.spacedFrom 0 (equalityTokens name s)) := by
    rw [scan_equality hname]
    rfl
  have hvalue : ∀ i, f.Admits (decide (Kind.equal ∈ KindSet.equality))
      ⟨.single .literal, i, Text.quote s⟩ (.value (.string (some s))) := by
    intro i
    have hadmits := hf.admits (decide (Kind.equal ∈ KindSet.equality))
      (t := ⟨.single .literal, i, Text.quote s⟩) rfl
    rwa [Token.literalValue, Text.unquote_quote] at hadmits
  have hderives : w.Derives .filter (.compared f .equal (.value (.string (some s))))
      (Token.spacedFrom 0 (equalityTokens name s)) :=
    .single (.compared ⟨rfl, hfind⟩ rfl (by decide) (by decide) heq (hvalue _))
  refine ⟨_, parse_eq_ok_some_iff_derives.2 ⟨_, _, hscan, hderives, rfl⟩, ?_⟩
  rw [Predicate.args_write, Formula.argument?_pieces]
  rfl

/-- **Literals and texts correspond to each other.**  Before anything but a quote, the written form
of a text is read as one literal, whose value is the text.  Every literal that is read anywhere is
the written form of its value.  And if a name can be written in a filter and its field takes texts
as they are, then it can be compared to any text, which is the one argument of the predicate. -/
theorem literal_roundtrip (w : Whitelist) (s : String) :
    (∀ r : String, r.toList.head? ≠ some '\'' →
      w.scan (Text.quote s ++ r) =
        (w.scanFrom (Text.quote s).utf8ByteSize r.toList).prepend
          [⟨.single .literal, 0, Text.quote s⟩]) ∧
    Text.unquote (Text.quote s) = s ∧
    (∀ text, ∀ t ∈ (w.scan text).items, t.is .literal = true →
      Text.quote t.literalValue = t.text) ∧
    (∀ name f, w.Lexeme .field name.toList [] → w.find? name = some f → f.IsVerbatim →
      .equal ∈ f.supported → ∃ p, w.parse (some (name ++ " eq " ++ Text.quote s)) = .ok (some p) ∧
        p.args = [.string (some s)]) := by
  refine ⟨?_, Text.unquote_quote s, ?_, ?_⟩
  · intro r hr
    exact scan_quote_append w s hr
  · intro text t ht hliteral
    exact quote_literalValue ht hliteral
  · intro name f hname hfind hf heq
    exact parse_equality hname hfind hf heq s

/-- A text field with the defaults of its type. -/
def named : Whitelist where
  fields := [Field.ofType "name" .string]
  nodup_keys := by decide +kernel

/-- A text with quotes at both ends and inside. -/
theorem literal_roundtrip_quotes :
    Text.quote "'a''b'" = "'''a''''b'''" ∧ "x'".toList.head? ≠ some '\'' ∧
      named.scan (Text.quote "'a''b'" ++ "x'") =
        (named.scanFrom (Text.quote "'a''b'").utf8ByteSize "x'".toList).prepend
          [⟨.single .literal, 0, Text.quote "'a''b'"⟩] ∧
      ⟨.single .literal, 8, "'''a'"⟩ ∈ (named.scan "name eq '''a'x").items ∧
      Text.quote (Token.mk (.single .literal) 8 "'''a'").literalValue = "'''a'" ∧
      named.Lexeme .field "NAME".toList [] ∧
      named.find? "NAME" = some (Field.ofType "name" .string) ∧
      (Field.ofType "name" .string).IsVerbatim ∧
      .equal ∈ (Field.ofType "name" .string).supported ∧
      ∃ p, named.parse (some ("NAME" ++ " eq " ++ Text.quote "'a''b'")) = .ok (some p) ∧
        p.args = [.string (some "'a''b'")] := by
  obtain ⟨hread, -, hwritten, haccepted⟩ := literal_roundtrip named "'a''b'"
  have hhead : "x'".toList.head? ≠ some '\'' := by decide
  have hmem : ⟨.single .literal, 8, "'''a'"⟩ ∈ (named.scan "name eq '''a'x").items := by
    decide +kernel
  have hname : named.Lexeme .field "NAME".toList [] := by
    have hkind : named.wordKind "NAME".toList = .field := by decide +kernel
    rw [← hkind]
    exact lexeme_word named (by decide) (by decide)
  have hfind : named.find? "NAME" = some (Field.ofType "name" .string) :=
    find?_eq_some_iff.2 ⟨List.mem_cons_self, by decide +kernel⟩
  have hfield : (Field.ofType "name" .string).IsVerbatim := ⟨rfl, rfl, rfl, rfl⟩
  have heq : .equal ∈ (Field.ofType "name" .string).supported := by decide
  exact ⟨by decide +kernel, hhead, hread _ hhead, hmem, hwritten _ _ hmem rfl, hname, hfind,
    hfield, heq, haccepted _ _ hname hfind hfield heq⟩

end Whitelist

end FilterQuery
