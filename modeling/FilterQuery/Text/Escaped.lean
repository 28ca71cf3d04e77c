/-
**Escaped text between double quotes.**

A diagnostic shows a text so that every character can be told from it: quotes and backslashes
are escaped, the common control characters have a short escape, and whatever does not print on
its own is given by its code point in hexadecimal.

Main definitions:

* `Text.escapeChar` — the shown form of one character;
* `Text.escaped` — a text between double quotes.
-/

import FilterQuery.Text.Hex
import FilterQuery.Text.Printable

set_option relaxedAutoImplicit false
set_option autoImplicit false

namespace FilterQuery

namespace Text

/-- The code point of a character between braces. -/
def escapeCode (c : Char) : List Char :=
  "\\u\x7b".toList ++ hexDigits c.toNat ++ ['\x7d']

/-- The shown form of one character. -/
def escapeChar (c : Char) : List Char :=
  if c = '\x00' then ['\\', '0']
  else if c = '\t' then ['\\', 't']
  else if c = '\r' then ['\\', 'r']
  else if c = '\n' then ['\\', 'n']
  else if c = '\\' then ['\\', '\\']
  else if c = '"' then ['\\', '"']
  else if showsAsIs c then [c]
  else escapeCode c

/-- A text between double quotes with its characters in their shown form. -/
def escaped (s : String) : String :=
  String.ofList ('"' :: s.toList.flatMap escapeChar ++ ['"'])

end Text

end FilterQuery
