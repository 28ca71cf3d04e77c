/-
**Globally unique identifiers.**

An identifier is a sequence of thirty-two hexadecimal digits.  It is read in four spellings: the
bare digits, the digits in five groups joined by hyphens, and the hyphenated form in braces or
after `urn:uuid:`.  The case of letters never matters.  It is written in groups and lower case.

Main definitions:

* `Guid` — thirty-two hexadecimal digits;
* `Guid.read?` — the reader of the four spellings;
* `Guid.render` — the hyphenated form in lower case.
-/

import FilterQuery.Text.Hex

set_option relaxedAutoImplicit false
set_option autoImplicit false

namespace FilterQuery

/-- An identifier of 128 bits, given by its hexadecimal digits. -/
structure Guid where
  digits : List (Fin 16)
  length_digits : digits.length = 32
deriving DecidableEq

namespace Guid

/-! ### Reading -/

/-- Thirty-two digits. -/
def ofBare? (cs : List Char) : Option Guid :=
  (cs.mapM Text.hexValue?).bind fun ds => if h : ds.length = 32 then some ⟨ds, h⟩ else none

/-- The lengths of the groups of the hyphenated form. -/
def groupLengths : List Nat := [8, 4, 4, 4, 12]

/-- Five groups of digits joined by hyphens. -/
def ofHyphenated? (cs : List Char) : Option Guid :=
  let groups := cs.splitOn '-'
  if groups.map List.length = groupLengths then ofBare? groups.flatten else none

/-- The hyphenated form in braces. -/
def ofBraced? : List Char → Option Guid
  | '\x7b' :: rest => if rest.getLast? = some '\x7d' then ofHyphenated? rest.dropLast else none
  | _ => none

/-- The hyphenated form after the name of its scheme, which may be in any case. -/
def ofUrn? (cs : List Char) : Option Guid :=
  if (cs.take 9).map Char.toLower = "urn:uuid:".toList then ofHyphenated? (cs.drop 9) else none

/-- The identifier that a text spells. -/
def read? (cs : List Char) : Option Guid :=
  (ofBare? cs).or ((ofHyphenated? cs).or ((ofBraced? cs).or (ofUrn? cs)))

/-! ### Writing -/

/-- The bare digits in lower case. -/
def bare (g : Guid) : List Char :=
  g.digits.map Text.hexChar

/-- The digits in five groups joined by hyphens. -/
def hyphenated (g : Guid) : List Char :=
  let cs := g.bare
  cs.take 8 ++ '-' :: (cs.drop 8).take 4 ++ '-' :: (cs.drop 12).take 4 ++
    '-' :: (cs.drop 16).take 4 ++ '-' :: cs.drop 20

/-- The text of an identifier. -/
def render (g : Guid) : String :=
  String.ofList g.hyphenated

end Guid

end FilterQuery
