/-
**Full case mapping of texts, without a locale.**

The lower-case form of a character may depend on its neighbours and the upper-case form may be
longer than the character.  Names are compared through `Text.lower`, and a case-insensitive field
compares through `Text.upper`.

Main definitions:

* `Text.lowerChar`, `Text.upperChar` — the forms of one character out of context;
* `Text.endsWord` — the context in which a capital sigma takes its final form;
* `Text.lower`, `Text.upper` — the forms of a text.
-/

import FilterQuery.Text.Cased
import FilterQuery.Text.CaseTables

set_option relaxedAutoImplicit false
set_option autoImplicit false

namespace FilterQuery

namespace Text

/-! ### Single characters -/

/-- The code point that a table of runs gives for `n`, or `n` itself. -/
def mapRuns (runs : List CaseRun) (n : Nat) : Nat :=
  (runs.findSome? (CaseRun.map? · n)).getD n

/-- The lower-case form of one character out of context. -/
def lowerChar (c : Char) : List Char :=
  if c.toNat < 128 then [c.toLower]
  -- The only character whose lower-case form has two characters.
  else if c = 'İ' then ['i', '\u0307']
  else [Char.ofNat (mapRuns lowerRuns c.toNat)]

/-- The upper-case form of one character. -/
def upperChar (c : Char) : List Char :=
  if c.toNat < 128 then [c.toUpper]
  else
    match upperExpansions.lookup c.toNat with
    | some codes => codes.map Char.ofNat
    | none => [Char.ofNat (mapRuns upperRuns c.toNat)]

/-! ### Texts -/

/-- Whether the first character that is not case-ignorable is cased. -/
def meetsCased (cs : List Char) : Bool :=
  (cs.dropWhile isCaseIgnorable).head?.any isCased

/-- Whether a character between `before`, nearest first, and `after` closes a word of cased
characters. -/
def endsWord (before after : List Char) : Bool :=
  meetsCased before && !meetsCased after

/-- The lower-case form of a text that follows `before`, which is given nearest first. -/
def lowerAfter (before : List Char) : List Char → List Char
  | [] => []
  | c :: rest =>
      (if c = 'Σ' then [if endsWord before rest then 'ς' else 'σ'] else lowerChar c)
        ++ lowerAfter (c :: before) rest

/-- The lower-case form of a text: a capital sigma at the end of a word takes its final form. -/
def lower (s : String) : String :=
  String.ofList (lowerAfter [] s.toList)

/-- The upper-case form of a text. -/
def upper (s : String) : String :=
  String.ofList (s.toList.flatMap upperChar)

@[simp] theorem toList_lower (s : String) : (lower s).toList = lowerAfter [] s.toList := by
  simp [lower]

/-! ### ASCII case -/

/-- The text with its ASCII letters in lower case. -/
def lowerAscii (s : String) : String :=
  String.ofList (s.toList.map Char.toLower)

/-- Whether two texts differ at most in the case of ASCII letters. -/
def sameAsciiCase (s t : String) : Bool :=
  lowerAscii s == lowerAscii t

end Text

end FilterQuery
