/-
**JSON documents, and their compact text.**

A document is kept as it is written: numbers stay numerals, members keep their order and may
repeat a name.  A text is a sequence of code units that may be written as escapes; if the units
pair up wrongly the text has no characters, which is an error only where the text is used.

Main definitions:

* `Json` — documents;
* `Json.Text` — the content of a text, which may be missing;
* `Json.quoted` — a text between double quotes, with the escapes it needs;
* `Json.render` — a document without any blanks.
-/

import FilterQuery.Text.Hex

set_option relaxedAutoImplicit false
set_option autoImplicit false

namespace FilterQuery

/-- The content of a text in a document, missing if its code units pair up wrongly. -/
abbrev Json.Text := Option String

/-- A document. -/
inductive Json where
  | null
  | bool (b : Bool)
  /-- A number, as it is written. -/
  | number (numeral : List Char)
  | text (content : Json.Text)
  | array (items : List Json)
  | object (members : List (Json.Text × Json))

namespace Json

/-- A document that is a text. -/
def ofString (s : String) : Json :=
  .text (some s)

/-! ### Writing -/

/-- A character between quotes.  Quotes, backslashes and control characters are escaped. -/
def quotedChar (c : Char) : List Char :=
  if c = '"' then ['\\', '"']
  else if c = '\\' then ['\\', '\\']
  else if c = '\n' then ['\\', 'n']
  else if c = '\r' then ['\\', 'r']
  else if c = '\t' then ['\\', 't']
  else if c = '\x08' then ['\\', 'b']
  else if c = '\x0c' then ['\\', 'f']
  else if c.toNat < 32 then '\\' :: 'u' :: FilterQuery.Text.hexPadded 4 c.toNat
  else [c]

/-- Characters between quotes. -/
def quoted (cs : List Char) : List Char :=
  '"' :: cs.flatMap quotedChar ++ ['"']

/-- A text between quotes.  A text without characters is written as if it were empty. -/
def renderText (t : Json.Text) : List Char :=
  quoted (t.getD "").toList

mutual

/-- The compact text of a document. -/
def render : Json → List Char
  | .null => "null".toList
  | .bool b => (if b then "true" else "false").toList
  | .number numeral => numeral
  | .text t => renderText t
  | .array items => '[' :: renderItems items ++ [']']
  | .object members => '\x7b' :: renderMembers members ++ ['\x7d']

/-- The items of an array with commas between them. -/
def renderItems : List Json → List Char
  | [] => []
  | [item] => render item
  | item :: items => render item ++ ',' :: renderItems items

/-- The members of an object with commas between them. -/
def renderMembers : List (Json.Text × Json) → List Char
  | [] => []
  | [member] => renderMember member
  | member :: members => renderMember member ++ ',' :: renderMembers members

/-- A member of an object: a name, a colon and a value. -/
def renderMember : Json.Text × Json → List Char
  | (name, value) => renderText name ++ ':' :: render value

end

end Json

end FilterQuery
