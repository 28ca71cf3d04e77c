/-
**Blank characters: what separates the words of a query.**

A character is blank when it has the Unicode property White_Space.  The class is wider than the
blanks of ASCII: it holds the no-break space, the line and paragraph separators and the
ideographic space, and it does not hold the zero-width space.

Main definitions:

* `Text.blankRanges`, `Text.isBlank` — the class;
* `Text.skipBlanks`, `Text.trim` — a text without its outer blanks;
* `Text.words` — the maximal runs without a blank;
* `Text.isBlankText` — a text of blanks alone.

Main results:

* `Text.words_append_blank` — a blank ends a word.
-/

import FilterQuery.Text.Ranges

set_option relaxedAutoImplicit false
set_option autoImplicit false

namespace FilterQuery

namespace Text

/-- The characters with the Unicode property White_Space. -/
def blankRanges : List (Nat × Nat) :=
  [
    (0x9, 0xd), (0x20, 0x20), (0x85, 0x85), (0xa0, 0xa0), (0x1680, 0x1680), (0x2000, 0x200a),
    (0x2028, 0x2029), (0x202f, 0x202f), (0x205f, 0x205f), (0x3000, 0x3000)
  ]

/-- Whether a character has the Unicode property White_Space. -/
def isBlank (c : Char) : Bool :=
  inRanges blankRanges c.toNat

/-- A text without its leading blanks. -/
def skipBlanks (cs : List Char) : List Char :=
  cs.dropWhile isBlank

/-- A text without its leading and trailing blanks. -/
def trim (cs : List Char) : List Char :=
  (skipBlanks (skipBlanks cs).reverse).reverse

/-- The maximal runs without a blank, in order. -/
def words (cs : List Char) : List (List Char) :=
  (cs.splitOnP isBlank).filter fun w => !w.isEmpty

/-- Whether a text holds nothing but blanks. -/
def isBlankText (s : String) : Bool :=
  s.toList.all isBlank

/-- What is left after skipping does not start with a blank. -/
theorem isBlank_head_skipBlanks {cs rest : List Char} {c : Char} (h : skipBlanks cs = c :: rest) :
    isBlank c = false := by
  have hc := List.head?_dropWhile_not isBlank cs
  simp only [skipBlanks] at h
  rw [h] at hc
  simpa using hc

/-- Skipping never makes a text longer. -/
theorem length_skipBlanks_le (cs : List Char) : (skipBlanks cs).length ≤ cs.length :=
  (List.dropWhile_sublist isBlank).length_le

@[simp] theorem words_nil : words [] = [] := rfl

/-- A blank ends a word. -/
theorem words_append_blank (a b : List Char) {c : Char} (h : isBlank c = true) :
    words (a ++ c :: b) = words a ++ words b := by
  simp only [words, List.splitOnP_append_cons a b h, List.filter_append]

end Text

end FilterQuery
