/-
**The tokens of a text.**

Blanks separate tokens and belong to none.  A parenthesis or comma is a token by itself, a quote
opens a literal, and any other run without blanks and punctuation is a word.  Keywords,
identifiers and names decide the kind of a word.  A literal without a closing quote ends the
reading.

Main definitions:

* `Whitelist.wordKind` — the kind of a word;
* `Whitelist.takeToken?` — the first token of a text that starts with no blank;
* `Whitelist.scanFrom`, `Whitelist.scan` — all tokens of a text.

Main results:

* `Whitelist.takeToken?_eq_append` — a token and its rest make up the text;
* `Whitelist.scanFrom_of_blank`, `Whitelist.scanFrom_of_token`, `Whitelist.scanFrom_of_open` — the
  three cases of reading on;
* `Whitelist.scan_eq_of_contains_eq` — tokens depend on nothing but the names that are registered.
-/

import FilterQuery.Text.Alphabetic
import FilterQuery.Whitelist
import FilterQuery.Yield

set_option relaxedAutoImplicit false
set_option autoImplicit false

namespace FilterQuery

/-! ### Words -/

/-- Whether a character is a token by itself. -/
def isPunctuation (c : Char) : Bool :=
  c == '(' || c == ')' || c == ','

/-- Whether a character belongs to a word. -/
def isWordChar (c : Char) : Bool :=
  !Text.isBlank c && !isPunctuation c

/-- Whether a text starts like the name of a field. -/
def startsName (cs : List Char) : Bool :=
  cs.head?.any fun c => Text.isAlphabetic c || c == '_'

namespace Whitelist

/-- The kind of a word.  Keywords come first, then identifiers, which are values even where they
start with a letter.  What starts like a name or is the name of a field is a field. -/
def wordKind (w : Whitelist) (word : List Char) : Kind :=
  match Kind.ofKeyword? (String.ofList word) with
  | some k => k
  | none =>
      if (Guid.read? word).isSome then .value
      else if startsName word || w.contains (String.ofList word) then .field
      else .value

/-! ### Tokens -/

/-- The kind and the text of the first token of `c :: rest`, where `c` is no blank, and what
follows it.  There is none if a literal is not closed. -/
def takeToken? (w : Whitelist) (c : Char) (rest : List Char) :
    Option (Kind × List Char × List Char) :=
  if c = '(' then some (.openParen, [c], rest)
  else if c = ')' then some (.closeParen, [c], rest)
  else if c = ',' then some (.comma, [c], rest)
  else if c = '\'' then
    (Text.takeLiteral? rest).map fun r => (.literal, c :: r.1, r.2)
  -- A quote that does not come first is a character of the word like any other.
  else
    let word := c :: rest.takeWhile isWordChar
    some (w.wordKind word, word, rest.dropWhile isWordChar)

/-- A token and its rest make up the text. -/
theorem takeToken?_eq_append {w : Whitelist} {c : Char} {rest text tail : List Char} {k : Kind}
    (h : w.takeToken? c rest = some (k, text, tail)) : c :: rest = text ++ tail := by
  unfold takeToken? at h
  split at h
  · obtain ⟨-, rfl, rfl⟩ := by simpa using h
    rfl
  · split at h
    · obtain ⟨-, rfl, rfl⟩ := by simpa using h
      rfl
    · split at h
      · obtain ⟨-, rfl, rfl⟩ := by simpa using h
        rfl
      · split at h
        · obtain ⟨r, hr, heq⟩ := Option.map_eq_some_iff.1 h
          obtain ⟨-, rfl, rfl⟩ := by simpa using heq
          simp [Text.takeLiteral?_eq_append hr]
        · obtain ⟨-, rfl, rfl⟩ := by simpa using h
          simp

/-- A token is not empty. -/
theorem ne_nil_of_takeToken? {w : Whitelist} {c : Char} {rest text tail : List Char} {k : Kind}
    (h : w.takeToken? c rest = some (k, text, tail)) : text ≠ [] := by
  unfold takeToken? at h
  split at h
  · obtain ⟨-, rfl, -⟩ := by simpa using h
    simp
  · split at h
    · obtain ⟨-, rfl, -⟩ := by simpa using h
      simp
    · split at h
      · obtain ⟨-, rfl, -⟩ := by simpa using h
        simp
      · split at h
        · obtain ⟨r, -, heq⟩ := Option.map_eq_some_iff.1 h
          obtain ⟨-, rfl, -⟩ := by simpa using heq
          simp
        · obtain ⟨-, rfl, -⟩ := by simpa using h
          simp

/-- What follows a token is shorter than the text. -/
theorem length_lt_of_takeToken? {w : Whitelist} {c : Char} {rest text tail : List Char} {k : Kind}
    (h : w.takeToken? c rest = some (k, text, tail)) : tail.length < (c :: rest).length := by
  have hpos := List.length_pos_iff.2 (ne_nil_of_takeToken? h)
  rw [takeToken?_eq_append h, List.length_append]
  omega

/-- The tokens of a text that starts at the byte position `start`. -/
def scanFrom (w : Whitelist) (start : Nat) (cs : List Char) : Yield Token :=
  match _hc : Text.skipBlanks cs with
  | [] => .empty
  | c :: rest =>
      let start := start + Text.byteLength (cs.takeWhile Text.isBlank)
      match _ht : w.takeToken? c rest with
      | none => .ofRefusal (.unterminatedLiteral start)
      | some (k, text, tail) =>
          (w.scanFrom (start + Text.byteLength text) tail).prepend
            [⟨.single k, start, String.ofList text⟩]
termination_by cs.length
decreasing_by
  have h₁ := length_lt_of_takeToken? _ht
  have h₂ := Text.length_skipBlanks_le cs
  rw [_hc] at h₂
  omega

/-- The tokens of a text. -/
def scan (w : Whitelist) (text : String) : Yield Token :=
  w.scanFrom 0 text.toList

/-! ### The cases of reading on -/

/-- A text of blanks has no token. -/
theorem scanFrom_of_blank (w : Whitelist) (start : Nat) {cs : List Char}
    (h : Text.skipBlanks cs = []) : w.scanFrom start cs = .empty := by
  rw [scanFrom]
  split
  · rfl
  · next h' => simp [h] at h'

/-- A token is read, and then the text after it. -/
theorem scanFrom_of_token (w : Whitelist) (start : Nat) {cs rest text tail : List Char} {c : Char}
    {k : Kind} (h : Text.skipBlanks cs = c :: rest)
    (ht : w.takeToken? c rest = some (k, text, tail)) :
    w.scanFrom start cs =
      (w.scanFrom (start + Text.byteLength (cs.takeWhile Text.isBlank) + Text.byteLength text)
        tail).prepend
        [⟨.single k, start + Text.byteLength (cs.takeWhile Text.isBlank), String.ofList text⟩] := by
  rw [scanFrom]
  split
  · next h' => simp [h] at h'
  · next c' rest' h' =>
      rw [h] at h'
      obtain ⟨rfl, rfl⟩ := List.cons.inj h'
      dsimp only
      split
      · next ht' => simp [ht] at ht'
      · next ht' =>
          rw [ht] at ht'
          obtain ⟨rfl, rfl, rfl⟩ := by simpa using ht'
          rfl

/-- A literal that is not closed ends the reading. -/
theorem scanFrom_of_open (w : Whitelist) (start : Nat) {cs rest : List Char} {c : Char}
    (h : Text.skipBlanks cs = c :: rest) (ht : w.takeToken? c rest = none) :
    w.scanFrom start cs = .ofRefusal
      (.unterminatedLiteral (start + Text.byteLength (cs.takeWhile Text.isBlank))) := by
  rw [scanFrom]
  split
  · next h' => simp [h] at h'
  · next c' rest' h' =>
      rw [h] at h'
      obtain ⟨rfl, rfl⟩ := List.cons.inj h'
      dsimp only
      split
      · rfl
      · next ht' => simp [ht] at ht'

/-! ### What the registered fields have to do with tokens -/

/-- The tokens of a text depend on nothing but the names that are registered. -/
theorem scanFrom_eq_of_contains_eq {w v : Whitelist}
    (h : ∀ name, v.contains name = w.contains name) (start : Nat) (cs : List Char) :
    v.scanFrom start cs = w.scanFrom start cs := by
  have hkind : v.wordKind = w.wordKind := by
    funext word
    rw [wordKind, wordKind, h]
  have htoken : ∀ c rest, v.takeToken? c rest = w.takeToken? c rest := by
    intro c rest
    rw [takeToken?, takeToken?, hkind]
  fun_induction scanFrom w start cs with
  | case1 start cs hskip => exact scanFrom_of_blank v start hskip
  | case2 start cs c rest hskip _ htake =>
      exact scanFrom_of_open v start hskip ((htoken c rest).trans htake)
  | case3 start cs c rest hskip _ k text tail htake ih =>
      rw [scanFrom_of_token v start hskip ((htoken c rest).trans htake), ih]

theorem scan_eq_of_contains_eq {w v : Whitelist}
    (h : ∀ name, v.contains name = w.contains name) (text : String) : v.scan text = w.scan text :=
  scanFrom_eq_of_contains_eq h 0 text.toList

end Whitelist

end FilterQuery
