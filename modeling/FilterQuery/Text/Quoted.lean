/-
**Quoted literals: a quote inside is written twice.**

A literal stands between single quotes.  Inside, a quote is written twice, and everything else as
it is.  Reading a literal off the front of a text takes it up to the first quote that stands
alone.

Main definitions:

* `Text.quote` — the written form of a text;
* `Text.unquote` — the text behind a written form: one quote is taken off at each end if both
  are there, and doubled quotes become single ones;
* `Text.takeLiteral?` — the part of a text up to the quote that closes the literal, and the rest.

Main results:

* `Text.unquote_quote` — the written form is read back;
* `Text.takeLiteral?_eq_append` — a literal and its rest make up the text.
-/

set_option relaxedAutoImplicit false
set_option autoImplicit false

namespace FilterQuery

namespace Text

/-! ### Writing -/

/-- The text with every quote written twice. -/
def doubleQuotes : List Char → List Char
  | [] => []
  | c :: rest => if c = '\'' then '\'' :: '\'' :: doubleQuotes rest else c :: doubleQuotes rest

/-- The literal whose value is the given text. -/
def quote (s : String) : String :=
  String.ofList ('\'' :: doubleQuotes s.toList ++ ['\''])

/-! ### Reading -/

/-- The text with every doubled quote made single, from left to right. -/
def mergeQuotes : List Char → List Char
  | '\'' :: '\'' :: rest => '\'' :: mergeQuotes rest
  | c :: rest => c :: mergeQuotes rest
  | [] => []

/-- The text without a quote at each end, or as it is where one of them is missing. -/
def dropOuterQuotes : List Char → List Char
  | '\'' :: rest => if rest.getLast? = some '\'' then rest.dropLast else '\'' :: rest
  | cs => cs

/-- The value of a literal. -/
def unquote (s : String) : String :=
  String.ofList (mergeQuotes (dropOuterQuotes s.toList))

/-- What follows an opening quote, cut after the quote that closes the literal.  A doubled quote
belongs to the literal. -/
def takeLiteral? : List Char → Option (List Char × List Char)
  | '\'' :: '\'' :: rest => (takeLiteral? rest).map fun r => ('\'' :: '\'' :: r.1, r.2)
  | '\'' :: rest => some (['\''], rest)
  | c :: rest => (takeLiteral? rest).map fun r => (c :: r.1, r.2)
  | [] => none

/-! ### Laws -/

/-- Merging undoes doubling. -/
theorem mergeQuotes_doubleQuotes (cs : List Char) : mergeQuotes (doubleQuotes cs) = cs := by
  induction cs with
  | nil => rfl
  | cons c rest ih =>
      by_cases h : c = '\''
      · subst h
        simp [doubleQuotes, mergeQuotes, ih]
      · simp only [doubleQuotes, h, if_false]
        rw [mergeQuotes.eq_2 _ _ (by simp [h]), ih]

/-- A literal is read back as the text it was written for. -/
theorem unquote_quote (s : String) : unquote (quote s) = s := by
  simp [unquote, quote, dropOuterQuotes, List.getLast?_append, mergeQuotes_doubleQuotes]

/-- A literal and its rest make up the text. -/
theorem takeLiteral?_eq_append {cs body rest : List Char}
    (h : takeLiteral? cs = some (body, rest)) : cs = body ++ rest := by
  fun_induction takeLiteral? cs generalizing body rest with
  | case1 cs ih =>
      obtain ⟨⟨b, r⟩, hb, heq⟩ := Option.map_eq_some_iff.1 h
      obtain ⟨rfl, rfl⟩ := Prod.mk.inj heq
      simp [ih hb]
  | case2 cs _ =>
      obtain ⟨rfl, rfl⟩ := Prod.mk.inj (Option.some.inj h)
      rfl
  | case3 c cs _ _ ih =>
      obtain ⟨⟨b, r⟩, hb, heq⟩ := Option.map_eq_some_iff.1 h
      obtain ⟨rfl, rfl⟩ := Prod.mk.inj heq
      simp [ih hb]
  | case4 => simp at h

end Text

end FilterQuery
